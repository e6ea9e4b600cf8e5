import AccessLayer.Files.Host

namespace AccessLayer

/-- The names that lead from the root to an entry. -/
abbrev Place := List String

/-- What may stand at a place. -/
inductive Entry
  | file (bytes : ByteArray)
  | folder

/-- A file tree with a working folder. The root is always a folder. -/
structure Tree where
  entries : List (Place × Entry)
  workingFolder : Place

namespace Tree

/-- What stands at a place. -/
def get? (t : Tree) (place : Place) : Option Entry :=
  if place.isEmpty then some .folder else t.entries.lookup place

/-- Puts an entry at a place, whatever stood there. -/
def set (t : Tree) (place : Place) (e : Entry) : Tree :=
  { t with entries := (place, e) :: t.entries.filter fun old => old.1 != place }

/-- No name is longer, in bytes. -/
def maxNameLength : Nat := 255

/-- No path is longer, in bytes. -/
def maxPathLength : Nat := 4095

/-- Whether a step through `place` can be taken. -/
def enter (t : Tree) (place : Place) : Except FileFault Unit :=
  match t.get? place with
  | some .folder => .ok ()
  | some (.file _) => .error .notFolder
  | none => .error .notFound

/-- The place that some names lead to. Every place but the last is entered, and the last too when a
    dot or a slash follows it. A step through a file or through nothing fails. -/
def walk (t : Tree) (place : Place) : List String → Except FileFault Place
  | [] => .ok place
  | name :: names =>
    match t.enter place with
    | .error fault => .error fault
    | .ok () =>
      if name = "" ∨ name = "." then walk t place names
      else if name = ".." then walk t place.dropLast names
      else if name.utf8ByteSize > maxNameLength then .error .nameTooLong
      else walk t (place ++ [name]) names

/-- The names of a path, between its slashes. Doubled slashes leave empty names. -/
def names (p : Path) : List String :=
  (Text.pieces (· == '/') p.text.toList).map String.ofList

/-- Where a path starts: at the root, or in the working folder. -/
def start (t : Tree) (p : Path) : Place := if p.isAbsolute then [] else t.workingFolder

/-- Whether the system takes the path at all. -/
def accept (p : Path) : Except FileFault Unit :=
  if p.text.toList.contains (Char.ofNat 0) then .error .endInside
  else if p.text.isEmpty then .error .notFound
  else if p.text.utf8ByteSize > maxPathLength then .error .nameTooLong
  else .ok ()

/-- The place of a path and what stands there. -/
def resolve (t : Tree) (p : Path) : Except FileFault (Place × Entry) := do
  accept p
  let place ← t.walk (t.start p) (names p)
  match t.get? place with
  | some e => .ok (place, e)
  | none => .error .notFound

/-- The place of an entry that is to be made, and its name there. The name is empty or one or two
    dots when the path ends in a slash or in dots. -/
def target (t : Tree) (p : Path) : Except FileFault (Place × String) := do
  accept p
  let above ← t.walk (t.start p) (names p).dropLast
  t.enter above
  .ok (above, (names p).getLast?.getD "")

/-- What a path leads to, if it leads anywhere. -/
def entry? (t : Tree) (p : Path) : Option EntryKind :=
  match t.resolve p with
  | .ok (_, .file _) => some .file
  | .ok (_, .folder) => some .folder
  | .error _ => none

/-- The bytes of a file. -/
def readBytes (t : Tree) (p : Path) : Except FileFault ByteArray :=
  match t.resolve p with
  | .ok (_, .file bytes) => .ok bytes
  | .ok (_, .folder) => .error .isFolder
  | .error fault => .error fault

/-- The text of a file, whose bytes must be one. -/
def readText (t : Tree) (p : Path) : Except FileFault String := do
  match String.fromUTF8? (← t.readBytes p) with
  | some text => .ok text
  | none => .error .notText

/-- Drops the slashes at the end of a path that has something before them. -/
def withoutEndSlashes (p : Path) : Path :=
  match (Text.dropEnd (· == '/') p.text.toList) with
  | [] => p
  | cs => ⟨String.ofList cs⟩

/-- Makes a folder where nothing stands yet, in a folder that is there. -/
def makeFolder (t : Tree) (p : Path) : Except FileFault Tree := do
  let (above, name) ← t.target (withoutEndSlashes p)
  if name = "" ∨ name = "." ∨ name = ".." then .error .alreadyExists
  else if name.utf8ByteSize > maxNameLength then .error .nameTooLong
  else if (t.get? (above ++ [name])).isSome then .error .alreadyExists
  else .ok (t.set (above ++ [name]) .folder)

/-- Writes a file whole, where nothing or a file stands, in a folder that is there. -/
def writeBytes (t : Tree) (p : Path) (bytes : ByteArray) : Except FileFault Tree := do
  let (above, name) ← t.target p
  if name = "" ∨ name = "." ∨ name = ".." then .error .isFolder
  else if name.utf8ByteSize > maxNameLength then .error .nameTooLong
  else
    match t.get? (above ++ [name]) with
    | some .folder => .error .isFolder
    | _ => .ok (t.set (above ++ [name]) (.file bytes))

/-- Removes the entry at a path with everything below it. -/
def remove (t : Tree) (p : Path) : Except FileFault Tree := do
  let (place, _) ← t.resolve p
  .ok { t with entries := t.entries.filter fun e => !place.isPrefixOf e.1 }

/-- The entries below the working folder, by the names that lead there from it. -/
def listing (t : Tree) : List (Place × Entry) :=
  t.entries.filterMap fun (place, e) =>
    if t.workingFolder.isPrefixOf place ∧ place ≠ t.workingFolder then
      some (place.drop t.workingFolder.length, e)
    else none

/-- The tree of nothing but the folders that lead to the working folder. -/
def ofWorkingFolder (place : Place) : Tree :=
  ⟨(List.range place.length).map fun n => (place.take (n + 1), .folder), place⟩

end Tree

end AccessLayer
