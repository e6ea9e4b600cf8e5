import AccessLayer.Proofs.CommandLine.Schema
import AccessLayer.Proofs.Run.Lockstep

namespace AccessLayer

namespace CommandLine

open Sandbox (host)

/-- How a setting comes by its value, from what its flag and its key say. Where there is a flag the
    key may say anything. -/
inductive Supplied {α : Type} (default : α) : α → Option α → Option α → Prop where
  | flag (value : α) (key : Option α) : Supplied default value (some value) key
  | key (value : α) : Supplied default value none (some value)
  | unset : Supplied default default none none

/-- The same for the write policy, for which there is a flag on one side only. -/
inductive PolicySupplied : WritePolicy → Bool → Option WritePolicy → Prop where
  | flag (key : Option WritePolicy) : PolicySupplied .continue true key
  | key (policy : WritePolicy) : PolicySupplied policy false (some policy)
  | unset : PolicySupplied .abort false none

private theorem Supplied.getD_or {α : Type} {default value : α} {flag key : Option α}
    (h : Supplied default value flag key) : (flag.or key).getD default = value := by
  cases h <;> rfl

/-- The policy that is supplied is the one that is used: the flag only ever asks to go on. -/
theorem PolicySupplied.getD {policy : WritePolicy} {flag : Bool} {key : Option WritePolicy}
    (h : PolicySupplied policy flag key) :
    (if flag then .continue else key.getD .abort) = policy := by
  cases h <;> rfl

/-- A command with these flags asks for a run under the options: its settings file, the named one or
    else the one next to the schema, can be read and holds the keys, or there is none and it has
    none. -/
structure AsksFor (t : Tree) (named : Option Path) (flags : Overrides) (keys : Settings)
    (o : Options) : Prop where
  settings : t.settings o.schema named = .ok keys
  language : Supplied Options.defaultLanguage o.language flags.language keys.language
  output : Supplied Options.defaultOutput o.output flags.output keys.output
  service : Supplied Options.defaultService o.service flags.name keys.name
  policy : PolicySupplied o.policy flags.continueOnError keys.policy
  dryRun : flags.dryRun = o.dryRun
  watched : o.watched = true

private theorem AsksFor.runOptions_eq {t : Tree} {named : Option Path} {flags : Overrides}
    {keys : Settings} {o : Options} (h : AsksFor t named flags keys o) :
    keys.runOptions o.schema flags = o := by
  rw [Settings.runOptions, Settings.options, h.language.getD_or, h.output.getD_or,
    h.service.getD_or, h.policy.getD, h.dryRun, ← h.watched]

/-- What a command comes to when its run ends. -/
def ended : Except RunError Report → Outcome
  | .error stop => .failed (.run stop)
  | .ok r => reported r

private theorem AsksFor.generate_eq {named : Option Path} {flags : Overrides} {keys : Settings}
    {o : Options} {s s' : Sandbox} {result : Except RunError Report}
    (h : AsksFor s.tree named flags keys o) (hrun : Run.generate host o s = (result, s')) :
    generate host o.schema named flags s = (ended result, s') := by
  rw [← h.runOptions_eq] at hrun
  cases result with
  | error stop => exact generate_of_stop h.settings hrun
  | ok r => exact generate_of_report h.settings hrun

/-- Two commands come to the same. The first, and so the second, is the run under the options; of a
    schema that cannot be read they may tell different causes. -/
structure ComeToTheSame (o : Options) (s s' : Sandbox) (first second : Outcome × Sandbox) :
    Prop where
  run : first = (ended ((Run.generate host o).run s).1, ((Run.generate host o).run s).2)
  exitCode : second.1.exitCode = first.1.exitCode
  output : second.1.output = first.1.output
  complaints : second.1.complaints = first.1.complaints
  /-- Both trees are changed alike, so that what is written in one is written in the other. -/
  files : ∃ changes, first.2.tree = s.tree.changed changes ∧
    second.2.tree = s'.tree.changed changes ∧
    ∀ place ∈ changes.map (·.1), second.2.tree.get? place = first.2.tree.get? place

/-- Commands that ask for the same options, each in its own way and in its own tree, come to the
    same. -/
theorem settings_mean_the_same {o : Options} {t t' : Tree} {named named' : Option Path}
    {flags flags' : Overrides} {keys keys' : Settings} (hasks : AsksFor t named flags keys o)
    (hasks' : AsksFor t' named' flags' keys' o) (halike : Run.SeenAlike o t t') (raised : Bool) :
    ComeToTheSame o ⟨t, raised⟩ ⟨t', raised⟩
      ((perform host (.generate o.schema named flags)).run ⟨t, raised⟩)
      ((perform host (.generate o.schema named' flags')).run ⟨t', raised⟩) := by
  obtain ⟨result, result', changes, hends, hrun, hrun'⟩ := Run.generate_in_step halike raised
  have hfirst : (perform host (.generate o.schema named flags)).run ⟨t, raised⟩ =
      (ended result, ⟨t.changed changes, raised⟩) := by
    simp only [StateT.run, perform]
    exact hasks.generate_eq hrun
  have hsecond : (perform host (.generate o.schema named' flags')).run ⟨t', raised⟩ =
      (ended result', ⟨t'.changed changes, raised⟩) := by
    simp only [StateT.run, perform]
    exact hasks'.generate_eq hrun'
  rw [hfirst, hsecond]
  refine ⟨?_, ?_, ?_, ?_, changes, rfl, rfl, fun place => Tree.get?_changed_of_mem t t'⟩
  · simp only [StateT.run, hrun]
  all_goals cases hends <;> rfl

/-- The schema of a small shop. -/
def shopSchema : String := "CREATE TABLE users (id UUID);"

/-- A tree with a schema and some settings files. -/
def shop (files : List (String × String)) : Tree :=
  ⟨(files ++ [("shop.sql", shopSchema)]).map fun file => ([file.1], .file file.2.toUTF8), []⟩

/-- Every setting by a flag. -/
def shopFlags : Overrides := ⟨some "go", some ⟨"out"⟩, some "billing", true, false⟩

/-- What these flags ask for. -/
def shopOptions : Options := ⟨⟨"shop.sql"⟩, "go", ⟨"out"⟩, "billing", .continue, false, true⟩

/-- Settings of which two agree with the flags. -/
def shopKeys : Settings := ⟨some "cobol", some ⟨"out"⟩, some "billing", some .abort⟩

/-- A settings file with other values than the flags that stand beside it. -/
def shopKeysText : String :=
  "[generate]\nlang = \"cobol\"\noutput = \"out\"\nname = \"billing\"\non_write_error = \"abort\"\n"

private theorem shop_schema : (shop []).readText ⟨"shop.sql"⟩ = .ok shopSchema ∧
    (shop [("daogen.toml", shopKeysText)]).readText ⟨"shop.sql"⟩ = .ok shopSchema := by
  decide +kernel

private theorem shop_settings :
    (shop [("daogen.toml", shopKeysText)]).settings ⟨"shop.sql"⟩ none = .ok shopKeys := by
  decide +kernel

private theorem shop_artifacts_apart :
    ∀ a ∈ (readSchema shopSchema).flatMap (Artifact.ofTable .go "billing"),
      ["daogen.toml"] ∉ Tree.stations ((shop []).start (Path.join ⟨"out"⟩ a.path))
        (Tree.names (Path.join ⟨"out"⟩ a.path)) := by
  decide +kernel

private theorem shop_seenAlike :
    Run.SeenAlike shopOptions (shop []) (shop [("daogen.toml", shopKeysText)]) where
  schema text := by rw [show shopOptions.schema = ⟨"shop.sql"⟩ from rfl, shop_schema.1, shop_schema.2]
  artifacts _ l text hlanguage hread a ha := by
    obtain rfl := Except.ok.inj (hread.symm.trans shop_schema.1)
    obtain rfl := Option.some.inj (hlanguage.symm.trans (by decide : _ = some Language.go))
    exact Tree.approachedAlike_set_file shopKeysText.toUTF8 (by simp) (by decide)
      (shop_artifacts_apart a ha)

/-- Flags against a settings file that is of another mind come to the same as flags alone. -/
theorem settings_mean_the_same_shop :
    AsksFor (shop []) none shopFlags .empty shopOptions ∧
      AsksFor (shop [("daogen.toml", shopKeysText)]) none ⟨some "go", none, none, true, false⟩
        shopKeys shopOptions ∧
      Run.SeenAlike shopOptions (shop []) (shop [("daogen.toml", shopKeysText)]) ∧
      ComeToTheSame shopOptions ⟨shop [], false⟩ ⟨shop [("daogen.toml", shopKeysText)], false⟩
        ((perform host (.generate ⟨"shop.sql"⟩ none shopFlags)).run ⟨shop [], false⟩)
        ((perform host (.generate ⟨"shop.sql"⟩ none ⟨some "go", none, none, true, false⟩)).run
          ⟨shop [("daogen.toml", shopKeysText)], false⟩) := by
  have hflags : AsksFor (shop []) none shopFlags .empty shopOptions :=
    ⟨by decide +kernel, .flag _ _, .flag _ _, .flag _ _, .flag _, rfl, rfl⟩
  have hkeys : AsksFor (shop [("daogen.toml", shopKeysText)]) none
      ⟨some "go", none, none, true, false⟩ shopKeys shopOptions :=
    ⟨shop_settings, .flag _ _, .key _, .key _, .flag _, rfl, rfl⟩
  exact ⟨hflags, hkeys, shop_seenAlike,
    settings_mean_the_same hflags hkeys shop_seenAlike false⟩

/-- A shop whose output folder is in the settings file next to the schema, and its language in
    another file. -/
def twofold : Tree :=
  shop [("daogen.toml", "[generate]\noutput = \"lib\"\n"),
    ("team.toml", "[generate]\nlang = \"go\"\n")]

/-- A shop whose settings file is where its output folder is to be. -/
def blocked : Tree := shop [("daogen.toml", "[generate]\noutput = \"daogen.toml\"\n")]

/-- Two settings files are not put together, as two flags are: with the one that is named, the one
    next to the schema does not count. And what a flag asks for can be done where the settings file
    that asks for the same is in its way. -/
theorem two_files_or_a_file_in_the_way :
    (twofold.settings ⟨"shop.sql"⟩ none = .ok ⟨none, some ⟨"lib"⟩, none, none⟩ ∧
      twofold.settings ⟨"shop.sql"⟩ (some ⟨"team.toml"⟩) = .ok ⟨some "go", none, none, none⟩ ∧
      ((perform host (.generate ⟨"shop.sql"⟩ (some ⟨"team.toml"⟩) bareOverrides)).run
        ⟨twofold, false⟩).1.output = "Generated GO DAO structure for 1 tables in ./src\n" ∧
      ((perform host (.generate ⟨"shop.sql"⟩ none
        ⟨some "go", some ⟨"lib"⟩, none, false, false⟩)).run ⟨shop [], false⟩).1.output =
          "Generated GO DAO structure for 1 tables in lib\n") ∧
      blocked.settings ⟨"shop.sql"⟩ none = .ok ⟨none, some ⟨"daogen.toml"⟩, none, none⟩ ∧
      ((perform host (.generate ⟨"shop.sql"⟩ none ⟨some "go", none, none, false, false⟩)).run
        ⟨blocked, false⟩).1.exitCode = 1 ∧
      ((perform host (.generate ⟨"shop.sql"⟩ none
        ⟨some "go", some ⟨"daogen.toml"⟩, none, false, false⟩)).run ⟨shop [], false⟩).1.exitCode =
          0 := by
  decide +kernel

end CommandLine

end AccessLayer
