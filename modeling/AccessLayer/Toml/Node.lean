
namespace AccessLayer

namespace Toml

/-- How a table came about. -/
inductive Origin
  | header
  | implied
  | dotted
  /-- Between braces, which close it for good. -/
  | inline
  deriving DecidableEq, Repr

/-- A value in a document. How a table came about decides whether it may be added to. -/
inductive Node
  | text (s : String)
  /-- A number, a truth value, a date or a time, as it is written. -/
  | bare (s : String)
  | list (items : List Node)
  | table (origin : Origin) (entries : List (String × Node))
  /-- Tables that share a header in double brackets, the last one first. -/
  | tables (latest : List (String × Node)) (earlier : List Node)

/-- Keys with their values, in the order of their definition. -/
abbrev Entries := List (String × Node)

namespace Entries

/-- The entries with another value for a key that is there. -/
def replace (key : String) (n : Node) (entries : Entries) : Entries :=
  entries.map fun e => if e.1 = key then (key, n) else e

/-- Defines a key, which may lead through tables that dotted keys or inner headers have made. No key
    is defined twice. -/
def define (value : Node) : List String → Entries → Option Entries
  | [], _ => none
  | [key], entries =>
    match entries.lookup key with
    | none => some (entries ++ [(key, value)])
    | some _ => none
  | key :: keys, entries =>
    match entries.lookup key with
    | none => (define value keys []).map fun inner => entries ++ [(key, .table .dotted inner)]
    | some (.table .dotted inner) =>
      (define value keys inner).map fun inner => replace key (.table .dotted inner) entries
    | some (.table .implied inner) =>
      (define value keys inner).map fun inner => replace key (.table .implied inner) entries
    | some _ => none

/-- Applies `f` to the entries of the table that a path of headers leads to; tables that are missing
    on the way are implied. -/
def within (f : Entries → Option Entries) : List String → Entries → Option Entries
  | [], entries => f entries
  | key :: keys, entries =>
    match entries.lookup key with
    | none => (within f keys []).map fun inner => entries ++ [(key, .table .implied inner)]
    | some (.table .inline _) => none
    | some (.table origin inner) =>
      (within f keys inner).map fun inner => replace key (.table origin inner) entries
    | some (.tables latest earlier) =>
      (within f keys latest).map fun latest => replace key (.tables latest earlier) entries
    | some _ => none

/-- Opens a table by its header: a new one, or one that was only implied. -/
def openTable (key : String) (entries : Entries) : Option Entries :=
  match entries.lookup key with
  | none => some (entries ++ [(key, .table .header [])])
  | some (.table .implied inner) => some (replace key (.table .header inner) entries)
  | some _ => none

/-- Opens one more table under a header in double brackets. -/
def openNext (key : String) (entries : Entries) : Option Entries :=
  match entries.lookup key with
  | none => some (entries ++ [(key, .tables [] [])])
  | some (.tables latest earlier) =>
    some (replace key (.tables [] (.table .header latest :: earlier)) entries)
  | some _ => none

end Entries

end Toml

end AccessLayer
