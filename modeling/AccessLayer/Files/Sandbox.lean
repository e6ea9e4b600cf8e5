import AccessLayer.Files.Tree

namespace AccessLayer

/-- A file tree and the flag that tells a run to stop: all that a run can see and change, so that it
    is a function from sandboxes to sandboxes. -/
structure Sandbox where
  tree : Tree
  cancelled : Bool

namespace Sandbox

/-- Replaces the tree when an operation on it succeeds. -/
def attempt (op : Tree → Except FileFault Tree) : StateM Sandbox (Except FileFault Unit) :=
  fun s =>
    match op s.tree with
    | .ok tree => (.ok (), { s with tree })
    | .error fault => (.error fault, s)

/-- Runs see the sandbox's tree and flag, and nothing else. -/
def host : Host (StateM Sandbox) where
  entry? p := fun s => (s.tree.entry? p, s)
  readText p := fun s => (s.tree.readText p, s)
  makeFolder p := attempt (·.makeFolder p)
  writeText p contents := attempt (·.writeBytes p contents.toUTF8)
  isCancelled := fun s => (s.cancelled, s)
  cancel := fun s => ((), { s with cancelled := true })

end Sandbox

end AccessLayer
