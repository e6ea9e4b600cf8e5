import AccessLayer.Schema.Block
import AccessLayer.Schema.Fragment

namespace AccessLayer

/-- Of several marked columns the first is the key; the others become ordinary columns. -/
def keepFirstKey (keyed : Bool) : List Column → List Column
  | [] => []
  | c :: cs => { c with marked := c.marked && !keyed } :: keepFirstKey (keyed || c.marked) cs

/-- The columns of a column section, in order. -/
def readColumns (body : List Char) : List Column :=
  keepFirstKey false ((Fragment.ofBody body).filterMap Fragment.declaration?)

/-- The table of a block. -/
def Block.table (b : Block) : Table := ⟨String.ofList b.name, readColumns b.body⟩

/-- The tables of a schema text, in the order of their blocks. Nothing is refused: what declares no
    column is skipped. -/
def readSchema (text : String) : List Table := (Block.all text.toList).map Block.table

end AccessLayer
