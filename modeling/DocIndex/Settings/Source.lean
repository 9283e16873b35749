import DocIndex.Settings.Basic
import DocIndex.Toml.Read

/-!
Settings as a TOML document gives them: a table `registry` with `base_url`, and a table `search`
with `limit` and `settle_secs`. What is missing keeps its standard value.
-/
namespace DocIndex.Settings

mutual

/-- Whether every number in a value that is passed over can be held: whole ones in 128 bits, others
as finite values. -/
def isHeld : Toml → Bool
  | .integer value => value.any fun n => -(Nat.pow 2 127 : Int) ≤ n && n < (Nat.pow 2 128 : Int)
  | .float overflows => !overflows
  | .array items => areHeld items
  | .tables items => areHeld items
  | .table _ entries => entriesAreHeld entries
  | _ => true

def areHeld : List Toml → Bool
  | [] => true
  | t :: ts => isHeld t && areHeld ts

def entriesAreHeld : List (Text × Toml) → Bool
  | [] => true
  | (_, t) :: es => isHeld t && entriesAreHeld es

end

/-- The values of the named fields of a group of settings. A group is a table, in which other keys
are passed over, or an array of the values in field order, in which items after the last field are
not looked at. A date or time has none of the fields. -/
def fields? (names : List Text) : Toml → Option (List (Option Toml))
  | .table _ entries =>
    if (entries.filter fun e => !names.contains e.1).all fun e => isHeld e.2 then
      some (names.map fun name => entries.lookup name)
    else none
  | .array items => some ((List.range names.length).map fun i => items[i]?)
  | .tables items => some ((List.range names.length).map fun i => items[i]?)
  | .moment => some (names.map fun _ => none)
  | _ => none

def fieldOr {α : Type} (standard : α) (read : Toml → Option α) : Option Toml → Option α
  | none => some standard
  | some t => read t

def text? : Toml → Option Text
  | .string t => some t
  | _ => none

/-- A whole number that is not negative and has at most 64 bits. -/
def word? : Toml → Option Nat
  | .integer (some n) => if 0 ≤ n ∧ n < (UInt64.size : Int) then some n.toNat else none
  | _ => none

def baseUrl? (group : Option Toml) : Option Text :=
  match group with
  | none => some standard.baseUrl
  | some t => do
    match ← fields? ["base_url"] t with
    | [url] => fieldOr standard.baseUrl text? url
    | _ => none

def search? (group : Option Toml) : Option (Nat × Nat) :=
  match group with
  | none => some (standard.limit, standard.settleSeconds)
  | some t => do
    match ← fields? ["limit", "settle_secs"] t with
    | [limit, seconds] =>
      return (← fieldOr standard.limit word? limit, ← fieldOr standard.settleSeconds word? seconds)
    | _ => none

def ofToml? (t : Text) : Option Settings := do
  match ← fields? ["registry", "search"] (.table .header (← Toml.read? t)) with
  | [registry, search] =>
    let (limit, seconds) ← search? search
    return ⟨← baseUrl? registry, limit, seconds⟩
  | _ => none

end DocIndex.Settings
