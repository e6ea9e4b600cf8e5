import AccessLayer.Language

namespace AccessLayer

/-- What can be done with the rows of a table. -/
inductive Operation
  | findById
  | findAll
  | create
  | update
  | delete
  deriving DecidableEq, Repr

namespace Operation

/-- The operations, in the order in which they are declared. -/
def all : List Operation := [findById, findAll, create, update, delete]

/-- Every operation is among them. -/
theorem mem_all (op : Operation) : op ∈ all := by cases op <;> decide

/-- How an operation is called, in the languages that separate words by underscores. -/
def name : Operation → String
  | findById => "find_by_id"
  | findAll => "find_all"
  | create => "create"
  | update => "update"
  | delete => "delete"

/-- What an operation does, for its comment. -/
def summary (table : String) : Operation → String
  | findById => "Find " ++ table ++ " by ID"
  | findAll => "Find all " ++ table
  | create => "Create a new " ++ table
  | update => "Update " ++ table
  | delete => "Delete " ++ table

end Operation

namespace Language

/-- The name of an operation in a language; `delete` is reserved in one of them. -/
def operationName : Language → Operation → String
  | cpp, .delete => "delete_entity"
  | go, .findById => "FindByID"
  | go, .findAll => "FindAll"
  | go, .create => "Create"
  | go, .update => "Update"
  | go, .delete => "Delete"
  | _, op => op.name

/-- The declaration of an operation on entities of type `model` with keys of type `key`. -/
def signature (l : Language) (model key : String) (op : Operation) : String :=
  match l, op with
  | rust, .findById =>
    s!"async fn find_by_id(&self, id: {key}) -> Result<Option<{model}>, DatabaseError>"
  | rust, .findAll => s!"async fn find_all(&self) -> Result<Vec<{model}>, DatabaseError>"
  | rust, .create =>
    s!"async fn create(&self, entity: &{model}) -> Result<{key}, DatabaseError>"
  | rust, .update =>
    s!"async fn update(&self, id: {key}, entity: &{model}) -> Result<(), DatabaseError>"
  | rust, .delete => s!"async fn delete(&self, id: {key}) -> Result<(), DatabaseError>"
  | cpp, .findById =>
    s!"std::future<std::optional<models::{model}>> find_by_id(const {key}& id)"
  | cpp, .findAll => s!"std::future<std::vector<models::{model}>> find_all()"
  | cpp, .create => s!"std::future<{key}> create(const models::{model}& entity)"
  | cpp, .update =>
    s!"std::future<void> update(const {key}& id, const models::{model}& entity)"
  | cpp, .delete => s!"std::future<void> delete_entity(const {key}& id)"
  | python, .findById => s!"async def find_by_id(self, entity_id: {key}) -> Optional[{model}]"
  | python, .findAll => s!"async def find_all(self) -> List[{model}]"
  | python, .create => s!"async def create(self, entity: {model}) -> {key}"
  | python, .update =>
    s!"async def update(self, entity_id: {key}, entity: {model}) -> None"
  | python, .delete => s!"async def delete(self, entity_id: {key}) -> None"
  | go, .findById => s!"FindByID(ctx context.Context, id {key}) (*{model}, error)"
  | go, .findAll => s!"FindAll(ctx context.Context) ([]*{model}, error)"
  | go, .create => s!"Create(ctx context.Context, entity *{model}) ({key}, error)"
  | go, .update => s!"Update(ctx context.Context, id {key}, entity *{model}) error"
  | go, .delete => s!"Delete(ctx context.Context, id {key}) error"

end Language

end AccessLayer
