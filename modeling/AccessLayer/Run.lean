import AccessLayer.Files.Host
import AccessLayer.Registry
import AccessLayer.Schema.Reading

namespace AccessLayer

namespace Run

variable {m : Type → Type} [Monad m]

/-- The text of a schema, which has to be a file. -/
def readSchemaText (h : Host m) (p : Path) : m (Except RunError String) := do
  if ← h.isFile p then
    match ← h.readText p with
    | .ok text => return .ok text
    | .error fault => return .error (.unusableSchema p (some fault))
  else return .error (.unusableSchema p none)

/-- Puts the artifacts of one table where they belong, or only plans to. -/
def place (h : Host m) (o : Options) (r : Report) : List Artifact → m (Except RunError Report)
  | [] => return .ok r
  | a :: rest => do
    let path := o.output.join a.path
    if o.dryRun then place h o { r with planned := r.planned ++ [path] } rest
    else
      match ← h.writeBelow path a.contents with
      | .ok () => place h o { r with written := r.written ++ [path] } rest
      | .error fault =>
        match o.policy with
        | .abort => return .error (.unwritten path fault)
        | .continue =>
          place h o { r with failures := r.failures ++ [⟨path, fault.message⟩] } rest

/-- Whether the run is to stop before its next table. -/
def isStopped (h : Host m) (o : Options) : m Bool :=
  if o.watched then h.isCancelled else return false

/-- Deals with tables one after the other. Each is rendered whole before its first artifact is
    written, and between tables the run may be cancelled. -/
def processTables (h : Host m) (o : Options) (e : Emitter) (r : Report) :
    List Table → m (Except RunError Report)
  | [] => return .ok r
  | t :: rest => do
    if ← isStopped h o then return .error (.cancelled r)
    else
      if e.cancels t then h.cancel
      match e.emitAll t with
      | .error (kind, reason) => return .error (.unrendered t.name kind reason)
      | .ok artifacts =>
        match ← place h o r artifacts with
        | .error stop => return .error stop
        | .ok r => processTables h o e { r with tables := r.tables + 1 } rest

/-- A run against a registry. The language is looked up before any file is. -/
def generateWith (h : Host m) (registry : Registry) (o : Options) :
    m (Except RunError Report) := do
  match registry.create o.language o.service with
  | .error stop => return .error stop
  | .ok emitter =>
    match ← readSchemaText h o.schema with
    | .error stop => return .error stop
    | .ok text => processTables h o emitter (.start emitter.language o) (readSchema text)

/-- A run against the built-in registry. -/
def generate (h : Host m) (o : Options) : m (Except RunError Report) :=
  generateWith h .builtIn o

end Run

end AccessLayer
