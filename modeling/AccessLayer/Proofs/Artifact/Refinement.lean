import AccessLayer.Proofs.Artifact.Heading.Cpp
import AccessLayer.Proofs.Artifact.Heading.Go
import AccessLayer.Proofs.Artifact.Heading.Python
import AccessLayer.Proofs.Artifact.Heading.Rust

namespace AccessLayer

open Line Text

/-- What a mock has in place of the signature: where the signature has a context of the request, the
    context is not named. -/
def Declared.IsMockedAs (d : Declared) (l : Language) (signature : String) : Prop :=
  match l with
  | .go => ∃ rest, d.signature = d.name ++ "(ctx " ++ rest ∧ signature = d.name ++ "(_ " ++ rest
  | _ => signature = d.signature

namespace Blueprint

section Headings

variable (b : Blueprint)

private theorem contractHeading_signature : b.contractHeading.signature = b.signature := by
  unfold contractHeading
  cases b.language <;> rfl

private theorem storeHeading_signature : b.storeHeading.signature = b.signature := by
  unfold storeHeading
  cases b.language <;> rfl

private theorem exists_goHead_eq (model key : String) (op : Operation) :
    ∃ rest, ∀ ctx, goHead ctx model key op =
      Language.go.operationName op ++ ("(" ++ (ctx ++ (" " ++ rest))) := by
  have hid : " context.Context, id " = " " ++ "context.Context, id " := by decide
  unfold goHead
  cases op with
  | findById =>
    have hname : "FindByID(" = Language.go.operationName .findById ++ "(" := by decide
    exact ⟨_, fun ctx => by simp only [toString, hname, hid, String.append_assoc]; rfl⟩
  | findAll =>
    have hname : "FindAll(" = Language.go.operationName .findAll ++ "(" := by decide
    have hcontext : " context.Context) ([]*" = " " ++ "context.Context) ([]*" := by decide
    exact ⟨_, fun ctx => by simp only [toString, hname, hcontext, String.append_assoc]; rfl⟩
  | create =>
    have hname : "Create(" = Language.go.operationName .create ++ "(" := by decide
    have hcontext : " context.Context, entity *" = " " ++ "context.Context, entity *" := by decide
    exact ⟨_, fun ctx => by simp only [toString, hname, hcontext, String.append_assoc]; rfl⟩
  | update =>
    have hname : "Update(" = Language.go.operationName .update ++ "(" := by decide
    exact ⟨_, fun ctx => by simp only [toString, hname, hid, String.append_assoc]; rfl⟩
  | delete =>
    have hname : "Delete(" = Language.go.operationName .delete ++ "(" := by decide
    exact ⟨_, fun ctx => by simp only [toString, hname, hid, String.append_assoc]; rfl⟩

/-- A mock has the declared signature, but that it may leave the request context without a name,
    which comes first behind the name of the operation. -/
theorem isMockedAs_mockHeading {d : Declared} (hsignature : d.signature = b.signature d.op)
    (hname : d.name = b.language.operationName d.op) :
    d.IsMockedAs b.language (b.mockHeading.signature d.op) := by
  unfold Declared.IsMockedAs mockHeading
  rw [hsignature]
  cases hl : b.language with
  | go =>
    obtain ⟨rest, hrest⟩ := exists_goHead_eq b.typeName b.key.type d.op
    have hctx : "(ctx " = "(" ++ ("ctx" ++ " ") := by decide
    have hblank : "(_ " = "(" ++ ("_" ++ " ") := by decide
    refine ⟨rest, ?_, ?_⟩
    · rw [goSignature_eq hl, hrest, hname, hl, hctx]
      simp only [String.append_assoc]
    · rw [hname, hl, hblank]
      simp only [hrest, String.append_assoc]
  | _ => rfl

end Headings

section OfTable

variable (l : Language) (service : String) {t : Table} (ht : t.Legible) (op : Operation)

private theorem no_capital_goPackage :
    ∀ c ∈ (Language.go.packageName service).toList, inSpans capitalSpans c = false := by
  intro c hc
  unfold Language.packageName at hc
  rw [String.toList_ofList] at hc
  exact no_capital_lower c (List.mem_filter.mp hc).1

include ht

/-- Each operation starts on one line of the contract. -/
theorem contract_once : HeadsOnce (render l (ofTable l service t).contractLines)
    ((ofTable l service t).contractHeading.head op)
    (ofTable l service t).contractHeading.trail := by
  have hb := unbroken_ofTable l service ht
  cases l with
  | rust => exact rustContract_once hb rfl rfl op
  | cpp => exact cppContract_once hb rfl (ofTable_keyType .cpp service t) rfl op
  | python => exact pythonContract_once hb rfl rfl op
  | go => exact goContract_once hb rfl (no_capital_goPackage service) rfl op

/-- Each operation starts on one line of the store. -/
theorem store_once : HeadsOnce (render l (ofTable l service t).storeLines)
    ((ofTable l service t).storeHeading.head op) (ofTable l service t).storeHeading.trail := by
  have hb := unbroken_ofTable l service ht
  cases l with
  | rust => exact rustStore_once hb rfl op
  | cpp => exact cppStore_once hb rfl (ofTable_keyType .cpp service t) op
  | python => exact pythonStore_once hb rfl op
  | go => exact goStore_once hb rfl (no_capital_goPackage service) op

/-- Each operation starts on one line of the mock. -/
theorem mock_once : HeadsOnce (render l (ofTable l service t).mockLines)
    ((ofTable l service t).mockHeading.head op) (ofTable l service t).mockHeading.trail := by
  have hb := unbroken_ofTable l service ht
  cases l with
  | rust => exact rustMock_once hb rfl op
  | cpp => exact cppMock_once hb rfl (ofTable_keyType .cpp service t) op
  | python => exact pythonMock_once hb rfl op
  | go => exact goMock_once hb rfl (no_capital_goPackage service) op

end OfTable

/-- Of each operation the three texts have just one line that starts with its signature. Before the
    signature stands at most a mark of the language or the receiver, and behind it what ends the
    declaration or opens the body. -/
structure Implemented (b : Blueprint) (contract store mock : String) : Prop where
  declared : ∀ d ∈ b.operations,
    HeadsOnce contract (b.contractHeading.lead ++ d.signature) b.contractHeading.trail
  stored : ∀ d ∈ b.operations,
    HeadsOnce store (b.storeHeading.lead ++ d.signature) b.storeHeading.trail
  mocked : ∀ d ∈ b.operations, ∃ signature, d.IsMockedAs b.language signature ∧
    HeadsOnce mock (b.mockHeading.lead ++ signature) b.mockHeading.trail

/-- Stores and mocks have each operation of the contract, once and with one signature, for every
    table whose names can stand on a line. -/
theorem implemented_ofTable (l : Language) (service : String) {t : Table} (ht : t.Legible) :
    (ofTable l service t).Implemented (render l (ofTable l service t).contractLines)
      (render l (ofTable l service t).storeLines) (render l (ofTable l service t).mockLines) where
  declared := List.forall_mem_map.mpr fun op _ => by
    have hcontract := contract_once l service ht op
    rwa [Heading.head, contractHeading_signature] at hcontract
  stored := List.forall_mem_map.mpr fun op _ => by
    have hstore := store_once l service ht op
    rwa [Heading.head, storeHeading_signature] at hstore
  mocked := List.forall_mem_map.mpr fun op _ =>
    ⟨_, isMockedAs_mockHeading (ofTable l service t) rfl rfl, mock_once l service ht op⟩

/-- For every table that is read, its store and its mock implement the five operations that its
    contract declares, each with one method. -/
theorem implementations_match_contract (l : Language) (service : String) {text : String}
    {t : Table} (ht : t ∈ readSchema text) :
    (ofTable l service t).operations.map (·.op) = Operation.all ∧
      ∃ contract store mock, (ofTable l service t).render? .contract = some contract ∧
        (ofTable l service t).render? .store = some store ∧
        (ofTable l service t).render? .mock = some mock ∧
        (ofTable l service t).Implemented contract store mock :=
  ⟨rfl, _, _, _, rfl, rfl, rfl, implemented_ofTable l service (legible_of_mem_readSchema ht)⟩

/-- A table whose key is a number. -/
def userTags : Table :=
  ⟨"user_tags", [⟨"tag", .text, true, false, none⟩, ⟨"place", .bigInteger, true, true, none⟩]⟩

/-- In the language whose mocks leave the context without a name, of a table whose key is not the
    first column. -/
theorem implementations_match_contract_userTags :
    userTags ∈ readSchema "CREATE TABLE user_tags (tag TEXT, place BIGINT PRIMARY KEY);" ∧
      (ofTable .go "shop" userTags).signature .findById =
        "FindByID(ctx context.Context, id int64) (*UserTags, error)" ∧
      (ofTable .go "shop" userTags).mockHeading.head .findById =
        "func (m *MockUserTagsDAO) FindByID(_ context.Context, id int64) (*UserTags, error)" ∧
      (ofTable .go "shop" userTags).operations.map (·.op) = Operation.all ∧
      ∃ contract store mock, (ofTable .go "shop" userTags).render? .contract = some contract ∧
        (ofTable .go "shop" userTags).render? .store = some store ∧
        (ofTable .go "shop" userTags).render? .mock = some mock ∧
        (ofTable .go "shop" userTags).Implemented contract store mock := by
  have hread : userTags ∈
      readSchema "CREATE TABLE user_tags (tag TEXT, place BIGINT PRIMARY KEY);" := by
    decide +kernel
  exact ⟨hread, by decide +kernel, by decide +kernel,
    implementations_match_contract .go "shop" hread⟩

end Blueprint

end AccessLayer
