import DocIndex.Text.Basic

/-!
TOML values, and the rules for defining tables: no key is given twice, a table has one header, and
tables are extended only in the way in which they were begun.
-/
namespace DocIndex

inductive TableOrigin where
  /-- By its own header, or as the document itself. -/
  | header
  /-- By the header of a table inside it. -/
  | implied
  /-- By a dotted key. -/
  | dotted
  /-- As a value in braces, which is complete. -/
  | braces
  deriving DecidableEq, Repr

inductive Toml where
  | string (t : Text)
  /-- A whole number. Some words that pass for one have no value, which counts only where the number
  is looked at. -/
  | integer (value : Option Int)
  /-- A floating point number, and whether it is too large to have a finite value. -/
  | float (overflows : Bool)
  | boolean (b : Bool)
  /-- A date, a time, or both. -/
  | moment
  | array (items : List Toml)
  /-- The tables that share a header in double brackets. -/
  | tables (items : List Toml)
  | table (origin : TableOrigin) (entries : List (Text × Toml))

namespace Toml

abbrev Entries := List (Text × Toml)

def replaceAt (key : Text) (value : Toml) (es : Entries) : Entries :=
  es.map fun e => if e.1 = key then (key, value) else e

/-- Changes the table at the end of a path. Tables that are missing on the way are begun; a list of
tables is entered at its last one. A dotted path must not enter a table that has its own header,
unless it stands in a list. -/
def changeAt (byDots : Bool) (change : TableOrigin → Entries → Option Entries) :
    List Text → TableOrigin → Entries → Option Entries
  | [], origin, es => change origin es
  | key :: path, _, es =>
    match es.lookup key with
    | none => do
      let origin := if byDots then .dotted else .implied
      let inner ← changeAt byDots change path origin []
      return es ++ [(key, .table origin inner)]
    | some (.table origin inner) =>
      if origin = .braces || (byDots && origin = .header) then none
      else do
        let inner ← changeAt byDots change path origin inner
        return replaceAt key (.table origin inner) es
    | some (.tables items) =>
      match items.getLast? with
      | some (.table origin inner) => do
        let inner ← changeAt byDots change path origin inner
        return replaceAt key (.tables (items.dropLast ++ [.table origin inner])) es
      | _ => none
    | some _ => none

def define (path : List Text) (key : Text) (value : Toml) (origin : TableOrigin) (es : Entries) :
    Option Entries :=
  changeAt (!path.isEmpty) (fun origin inner =>
    if (origin == .dotted) != (!path.isEmpty) then none
    else if (inner.lookup key).isSome then none
    else some (inner ++ [(key, value)])) path origin es

/-- A document while it is read: the tables that are complete, and the table that keys go to. -/
structure Draft where
  root : Entries
  /-- The header of the current table: its path and key, and whether it adds to a list. -/
  header : Option (List Text × Text × Bool)
  current : Entries

namespace Draft

def start : Draft := ⟨[], none, []⟩

def complete (d : Draft) : Option Entries :=
  match d.header with
  | none => some d.current
  | some (path, key, false) =>
    changeAt false (fun _ es => some (es ++ [(key, .table .header d.current)])) path .header d.root
  | some (path, key, true) =>
    changeAt false (fun _ es =>
      match es.lookup key with
      | none => some (es ++ [(key, .tables [.table .header d.current])])
      | some (.tables items) =>
        some (replaceAt key (.tables (items ++ [.table .header d.current])) es)
      | some _ => none) path .header d.root

/-- The entries that a header in single brackets takes over: those of the table of that name if only
the headers of tables inside it began it. -/
def takenOver? (key : Text) (es : Entries) : Option Entries :=
  match es.lookup key with
  | none => some []
  | some (.table .implied inner) => some inner
  | some _ => none

def entriesAt : List Text → Entries → Entries
  | [], es => es
  | key :: path, es =>
    match es.lookup key with
    | some (.table _ inner) => entriesAt path inner
    | some (.tables items) =>
      match items.getLast? with
      | some (.table _ inner) => entriesAt path inner
      | _ => []
    | _ => []

def begin? (d : Draft) (path : List Text) (key : Text) (adds : Bool) : Option Draft := do
  let root ← d.complete
  if adds then return ⟨root, some (path, key, true), []⟩
  else do
    let taken ← takenOver? key (entriesAt path root)
    let root ← changeAt false (fun _ es => some (es.filter fun e => e.1 ≠ key)) path .header root
    return ⟨root, some (path, key, false), taken⟩

def define? (d : Draft) (path : List Text) (key : Text) (value : Toml) : Option Draft := do
  let current ← Toml.define path key value .header d.current
  return { d with current }

end Draft

end Toml

end DocIndex
