import AccessLayer.Text.WordTable

namespace AccessLayer.Text

/-- The characters of which the names of tables are made. ASCII is decided without the table, so
    that names in ASCII are cheap to reason about. -/
def isWord (c : Char) : Bool :=
  if c.toNat < 128 then c.isAlphanum || c == '_' else inSpans wordSpans c

end AccessLayer.Text
