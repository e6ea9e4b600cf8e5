import AccessLayer.Emitter
import AccessLayer.Run.Error

namespace AccessLayer

/-- Makes the emitter for a service. -/
abbrev EmitterMaker := String → Emitter

/-- Makers by language, in the order of the languages' names. A language that is not among them
    cannot be asked for. -/
structure Registry where
  entries : List (Language × EmitterMaker)

namespace Registry

/-- The registry in which no language can be asked for. -/
def empty : Registry := ⟨[]⟩

/-- Puts a maker in its place by name; an earlier one for the language is replaced. -/
def place (l : Language) (make : EmitterMaker) :
    List (Language × EmitterMaker) → List (Language × EmitterMaker)
  | [] => [(l, make)]
  | (k, other) :: rest =>
    if l = k then (l, make) :: rest
    else if l.name < k.name then (l, make) :: (k, other) :: rest
    else (k, other) :: place l make rest

/-- The registry in which `l` is served by `make`. -/
def register (r : Registry) (l : Language) (make : EmitterMaker) : Registry :=
  ⟨place l make r.entries⟩

/-- The registry in which every language is served by the emitter that it comes with. -/
def builtIn : Registry := Language.all.foldl (fun r l => r.register l (Emitter.builtIn l)) empty

/-- The languages that can be asked for. -/
def languages (r : Registry) : List Language := r.entries.map (·.1)

/-- The names of the languages that can be asked for. -/
def names (r : Registry) : List String := r.languages.map (·.name)

/-- The maker that serves a language. -/
def maker? (r : Registry) (l : Language) : Option EmitterMaker := r.entries.lookup l

/-- The language that a name or an alias asks for, if it is served. -/
def resolve? (r : Registry) (asked : String) : Option Language :=
  (Language.ofName? asked).filter fun l => (r.maker? l).isSome

/-- The emitter that is asked for. -/
def create? (r : Registry) (asked service : String) : Option Emitter := do
  let l ← Language.ofName? asked
  let make ← r.maker? l
  some (make service)

/-- The emitter that is asked for, or the failure with which a run ends that asks for it. -/
def create (r : Registry) (asked service : String) : Except RunError Emitter :=
  match r.create? asked service with
  | some e => .ok e
  | none => .error (.unsupported asked r.names)

end Registry

end AccessLayer
