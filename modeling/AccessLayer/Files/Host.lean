import AccessLayer.Files.Fault
import AccessLayer.Files.Path

namespace AccessLayer

/-- What may stand at a path. -/
inductive EntryKind
  | file
  | folder
  deriving DecidableEq, Repr

/-- File operations and the cancellation flag, as actions of `m`. An operation that fails changes
    nothing. It is all that a run needs from the machine on which it runs. -/
structure Host (m : Type → Type) where
  /-- What stands at a path, if anything can be reached there. -/
  entry? : Path → m (Option EntryKind)
  readText : Path → m (Except FileFault String)
  /-- Makes one folder, whose parent is there. -/
  makeFolder : Path → m (Except FileFault Unit)
  /-- Writes a file whole, in place of what it held. -/
  writeText : Path → String → m (Except FileFault Unit)
  isCancelled : m Bool
  /-- Raises the flag, which is never lowered. -/
  cancel : m Unit

namespace Host

variable {m : Type → Type} [Monad m]

/-- Whether a file, and no folder, stands at a path. -/
def isFile (h : Host m) (p : Path) : m Bool := do
  return (← h.entry? p) == some .file

/-- A folder that is already there is as good as a new one. -/
def settle (h : Host m) (p : Path) (made : Except FileFault Unit) :
    m (Except FileFault Unit) := do
  match made with
  | .error .alreadyExists =>
    return if (← h.entry? p) == some .folder then .ok () else .error .alreadyExists
  | _ => return made

/-- Makes the first of the folders, after those that follow it as far as they are missing. -/
def makeFolders (h : Host m) : List Path → m (Except FileFault Unit)
  | [] => return .ok ()
  | p :: above => do
    match ← h.makeFolder p with
    | .error .notFound =>
      match ← makeFolders h above with
      | .error fault => return .error fault
      | .ok () => h.settle p (← h.makeFolder p)
    | made => h.settle p made

/-- Writes a file after making the folders above it. -/
def writeBelow (h : Host m) (p : Path) (contents : String) : m (Except FileFault Unit) := do
  match ← h.makeFolders ((p.parent?.map (·.ancestors)).getD []) with
  | .error fault => return .error fault
  | .ok () => h.writeText p contents

end Host

end AccessLayer
