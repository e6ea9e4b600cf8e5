import AccessLayer.Language
import AccessLayer.Run.Options

namespace AccessLayer

/-- An artifact that could not be written, and why. -/
structure WriteFailure where
  path : Path
  message : String
  deriving DecidableEq, Repr

/-- The outcome of a run, up to where it got. -/
structure Report where
  language : Language
  output : Path
  tables : Nat
  /-- The files that were written, in order. -/
  written : List Path
  /-- The files that a dry run would have written, in order. -/
  planned : List Path
  failures : List WriteFailure
  dryRun : Bool
  deriving DecidableEq, Repr

namespace Report

/-- The report of a run that has done nothing yet. -/
def start (l : Language) (o : Options) : Report where
  language := l
  output := o.output
  tables := 0
  written := []
  planned := []
  failures := []
  dryRun := o.dryRun

/-- Whether every artifact could be written. -/
def isSuccess (r : Report) : Bool := r.failures.isEmpty

/-- What is said of a run in one line. -/
def summary (r : Report) : String :=
  let language := r.language.name.toUpper
  let tables := Nat.repr r.tables
  let done :=
    if r.dryRun then
      let files := Nat.repr r.planned.length
      s!"Would generate {language} DAO structure for {tables} tables in {r.output.text} " ++
        s!"({files} files)"
    else s!"Generated {language} DAO structure for {tables} tables in {r.output.text}"
  if r.failures.isEmpty then done
  else done ++ " (" ++ Nat.repr r.failures.length ++ " write failures)"

end Report

end AccessLayer
