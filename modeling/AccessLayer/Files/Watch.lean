import AccessLayer.Files.Sandbox

namespace AccessLayer

/-- A file tree and a flag that a signal may raise: before any action of a run, or never. How often
    the run has looked at the flag tells the moments of a run apart. -/
structure Watch where
  tree : Tree
  /-- How many more actions are carried out before a signal comes, if one is to come. -/
  signal : Option Nat
  /-- How often the flag has been looked at. -/
  looks : Nat
  /-- How often it had been looked at when it was raised; `none` while it is down. -/
  raised : Option Nat

namespace Watch

/-- A run has not begun. Its flag may be raised already, and a signal may be on its way. -/
def start (t : Tree) (raised : Bool) (signal : Option Nat) : Watch where
  tree := t
  signal := signal
  looks := 0
  raised := if raised then some 0 else none

/-- Raises the flag, which is never lowered. -/
def raise (w : Watch) : Watch := { w with raised := w.raised.or (some w.looks) }

/-- The moment before an action. -/
def tick (w : Watch) : Watch :=
  match w.signal with
  | none => w
  | some 0 => { w.raise with signal := none }
  | some (n + 1) => { w with signal := some n }

/-- An action on files, which a signal may precede. -/
def onFiles {α : Type} (x : StateM Sandbox α) : StateM Watch α := fun w =>
  let (a, s) := x ⟨w.tree, w.raised.isSome⟩
  (a, { w.tick with tree := s.tree })

/-- Runs see the tree and the flag, and nothing else. -/
def host : Host (StateM Watch) where
  entry? p := onFiles (Sandbox.host.entry? p)
  readText p := onFiles (Sandbox.host.readText p)
  makeFolder p := onFiles (Sandbox.host.makeFolder p)
  writeText p contents := onFiles (Sandbox.host.writeText p contents)
  isCancelled := fun w => (w.tick.raised.isSome, { w.tick with looks := w.looks + 1 })
  cancel := fun w => ((), w.tick.raise)

end Watch

end AccessLayer
