import AccessLayer.Artifact

namespace AccessLayer

/-- Makes the artifacts of tables. The built-in emitters never fail; others may. -/
structure Emitter where
  language : Language
  service : String
  /-- Where an artifact goes below the output directory, `none` where it is not made. -/
  path? : Table → Kind → Option Path
  /-- The text of an artifact, `none` where it is not made, or the reason for which it cannot be. -/
  render : Blueprint → Kind → Except String (Option String)
  /-- Whether the run is cancelled while the artifacts of a table are rendered. -/
  cancels : Table → Bool

namespace Emitter

/-- The emitter that a language comes with. -/
def builtIn (l : Language) (service : String) : Emitter where
  language := l
  service := service
  path? t kind := l.artifactPath? t.name kind
  render b kind := .ok (b.render? kind)
  cancels _ := false

/-- The blueprint from which a table's artifacts are rendered. -/
def blueprint (e : Emitter) (t : Table) : Blueprint := .ofTable e.language e.service t

/-- The artifacts of some kinds, in their order, or the first kind that cannot be rendered. Kinds
    without a path are not rendered at all. -/
def emitKinds (e : Emitter) (t : Table) : List Kind → Except (Kind × String) (List Artifact)
  | [] => .ok []
  | kind :: kinds =>
    match e.path? t kind with
    | none => emitKinds e t kinds
    | some path =>
      match e.render (e.blueprint t) kind with
      | .error reason => .error (kind, reason)
      | .ok none => emitKinds e t kinds
      | .ok (some contents) =>
        (emitKinds e t kinds).map fun others => ⟨t.name, kind, path, contents⟩ :: others

/-- The artifacts of a table, in the order of the kinds. -/
def emitAll (e : Emitter) (t : Table) : Except (Kind × String) (List Artifact) :=
  e.emitKinds t Kind.all

/-- The text of a single artifact, from a blueprint of its own; empty where it is not made. -/
def renderOne (e : Emitter) (t : Table) (kind : Kind) : Except String String :=
  (e.render (e.blueprint t) kind).map (·.getD "")

/-- The model alone. -/
def emitModel (e : Emitter) (t : Table) : Except String String := e.renderOne t .model

/-- The contract alone. -/
def emitContract (e : Emitter) (t : Table) : Except String String := e.renderOne t .contract

/-- The store alone. -/
def emitStore (e : Emitter) (t : Table) : Except String String := e.renderOne t .store

/-- The mock alone. -/
def emitMock (e : Emitter) (t : Table) : Except String String := e.renderOne t .mock

/-- The wiring is the one artifact that a language may do without. -/
def emitWiring (e : Emitter) (t : Table) : Except String (Option String) :=
  e.render (e.blueprint t) .wiring

/-- What is made of a single kind. -/
def emitOne (e : Emitter) (t : Table) : Kind → Except String (Option String)
  | .model => (e.emitModel t).map some
  | .contract => (e.emitContract t).map some
  | .store => (e.emitStore t).map some
  | .mock => (e.emitMock t).map some
  | .wiring => e.emitWiring t

end Emitter

end AccessLayer
