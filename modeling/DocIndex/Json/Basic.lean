import DocIndex.Text.Basic

/-!
JSON values, and the reading of a record with a fixed list of fields.

A string is kept as an optional text: an escape that names one half of a surrogate pair alone is
well formed, but the string then has no text, which matters only where the text is asked for.
-/
namespace DocIndex

inductive Json where
  | null
  | bool (value : Bool)
  | number (literal : Text)
  | string (text : Option Text)
  | array (items : List Json)
  | object (members : List (Option Text × Json))

namespace Json

def ofText (t : Text) : Json := .string (some t)

def ofNat (n : Nat) : Json := .number (Text.ofNat n)

def ofMembers (members : List (Text × Json)) : Json :=
  .object (members.map fun m => (some m.1, m.2))

def text? : Json → Option Text
  | .string t => t
  | _ => none

def array? : Json → Option (List Json)
  | .array items => some items
  | _ => none

def bool? : Json → Option Bool
  | .bool b => some b
  | _ => none

/-- An unsigned number below `bound`: a literal of digits only. -/
def natBelow? (bound : Nat) : Json → Option Nat
  | .number literal =>
    if literal.all Char.isDigit && !literal.isEmpty then
      let n := Nat.ofDigitChars 10 literal 0
      if n < bound then some n else none
    else none
  | _ => none

def list? {α : Type} (item : Json → Option α) (j : Json) : Option (List α) :=
  j.array?.bind fun items => items.mapM item

def membersAt (keys : List Text) (members : List (Option Text × Json)) : List Json :=
  members.filterMap fun m => if keys.any (fun k => m.1 == some k) then some m.2 else none

/-- The value at one field of an object: none if the field is missing. A field given twice, under
one of its keys or under two, is refused. -/
def memberAt? (keys : List Text) (members : List (Option Text × Json)) : Option (Option Json) :=
  match membersAt keys members with
  | [] => some none
  | [j] => some (some j)
  | _ => none

/-- The values of a record's fields, each field given by its accepted keys. Keys that belong to no
field are passed over. A record is also accepted as an array of its values in field order, where
fields may be missing at the end. -/
def record? (fields : List (List Text)) : Json → Option (List (Option Json))
  | .object members =>
    if members.all (fun m => m.1.isSome) then fields.mapM fun keys => memberAt? keys members
    else none
  | .array items =>
    if items.length ≤ fields.length then
      some (items.map some ++ List.replicate (fields.length - items.length) none)
    else none
  | _ => none

def requiredText? (j : Option Json) : Option Text := j.bind text?

def textOrEmpty? : Option Json → Option Text
  | none => some []
  | some j => j.text?

def listOrEmpty? {α : Type} (item : Json → Option α) : Option Json → Option (List α)
  | none => some []
  | some j => j.list? item

end Json

end DocIndex
