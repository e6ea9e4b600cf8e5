import AccessLayer.Blueprint.Operation

namespace AccessLayer

namespace Blueprint

/-- The heads of the methods that implement the operations, in stores and in mocks, for entities of
    type `model` with keys of type `key`. They are spelled out here once more, and not taken from
    the signatures that the contract declares. -/
def rustHead (model key : String) : Operation → String
  | .findById =>
    s!"async fn find_by_id(&self, id: {key}) -> Result<Option<{model}>, DatabaseError>"
  | .findAll => s!"async fn find_all(&self) -> Result<Vec<{model}>, DatabaseError>"
  | .create => s!"async fn create(&self, entity: &{model}) -> Result<{key}, DatabaseError>"
  | .update =>
    s!"async fn update(&self, id: {key}, entity: &{model}) -> Result<(), DatabaseError>"
  | .delete => s!"async fn delete(&self, id: {key}) -> Result<(), DatabaseError>"

/-- The heads of the methods, without the mark that they override the contract's. -/
def cppHead (model key : String) : Operation → String
  | .findById => s!"std::future<std::optional<models::{model}>> find_by_id(const {key}& id)"
  | .findAll => s!"std::future<std::vector<models::{model}>> find_all()"
  | .create => s!"std::future<{key}> create(const models::{model}& entity)"
  | .update => s!"std::future<void> update(const {key}& id, const models::{model}& entity)"
  | .delete => s!"std::future<void> delete_entity(const {key}& id)"

/-- The heads of the methods, without the colon behind them. -/
def pythonHead (model key : String) : Operation → String
  | .findById => s!"async def find_by_id(self, entity_id: {key}) -> Optional[{model}]"
  | .findAll => s!"async def find_all(self) -> List[{model}]"
  | .create => s!"async def create(self, entity: {model}) -> {key}"
  | .update => s!"async def update(self, entity_id: {key}, entity: {model}) -> None"
  | .delete => s!"async def delete(self, entity_id: {key}) -> None"

/-- The head behind the receiver, with the request context called `ctx`. -/
def goHead (ctx model key : String) : Operation → String
  | .findById => s!"FindByID({ctx} context.Context, id {key}) (*{model}, error)"
  | .findAll => s!"FindAll({ctx} context.Context) ([]*{model}, error)"
  | .create => s!"Create({ctx} context.Context, entity *{model}) ({key}, error)"
  | .update => s!"Update({ctx} context.Context, id {key}, entity *{model}) error"
  | .delete => s!"Delete({ctx} context.Context, id {key}) error"

end Blueprint

end AccessLayer
