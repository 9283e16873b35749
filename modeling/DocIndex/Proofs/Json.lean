import DocIndex.Json.Basic
import Mathlib.Data.List.Basic

/-!
Which JSON is read as a text, as a list of texts, and as a record with two fields.
-/
namespace DocIndex.Json

theorem text?_eq_some_iff {j : Json} {t : Text} : j.text? = some t ↔ j = ofText t := by
  cases j <;> simp [text?, ofText]

theorem mapM_text?_eq_some_iff {items : List Json} {ts : List Text} :
    items.mapM text? = some ts ↔ items = ts.map ofText := by
  induction items generalizing ts with
  | nil => cases ts <;> simp
  | cons j items ih =>
    simp only [List.mapM_cons, Option.bind_eq_bind, Option.bind_eq_some_iff, text?_eq_some_iff, ih]
    cases ts with
    | nil => simp
    | cons t ts => simp [and_comm]

theorem list?_text?_eq_some_iff {j : Json} {ts : List Text} :
    j.list? text? = some ts ↔ j = .array (ts.map ofText) := by
  cases j <;> simp [list?, array?, mapM_text?_eq_some_iff]

theorem membersAt_singleton (key : Text) (members : List (Option Text × Json)) :
    membersAt [key] members = (members.filter fun m => m.1 = some key).map Prod.snd := by
  unfold membersAt
  induction members with
  | nil => rfl
  | cons m members ih =>
    rw [List.filterMap_cons, ih]
    by_cases hm : m.1 = some key <;> simp [hm]

/-- A field is there if exactly one member has its key. -/
theorem memberAt?_eq_some_iff {key : Text} {members : List (Option Text × Json)} {j : Json} :
    memberAt? [key] members = some (some j) ↔
      (members.filter fun m => m.1 = some key) = [(some key, j)] := by
  have hkey : ∀ m ∈ members.filter fun m => m.1 = some key, m.1 = some key :=
    fun m hm => of_decide_eq_true (List.mem_filter.mp hm).2
  rw [memberAt?, membersAt_singleton]
  generalize (members.filter fun m => m.1 = some key) = ms at hkey
  match ms with
  | [] => simp
  | [(k, i)] =>
    obtain rfl : k = some key := hkey _ List.mem_cons_self
    simp
  | _ :: _ :: _ => simp

/-- A record with two fields that are both there. -/
theorem record?_eq_some_iff {a b : Text} {j x y : Json} :
    record? [[a], [b]] j = some [some x, some y] ↔
      (∃ members, j = .object members ∧ (∀ m ∈ members, m.1 ≠ none) ∧
        memberAt? [a] members = some (some x) ∧ memberAt? [b] members = some (some y)) ∨
      j = .array [x, y] := by
  cases j with
  | object members =>
    cases ha : memberAt? [a] members <;> cases hb : memberAt? [b] members <;>
      simp [record?, List.mapM_cons, Option.isSome_iff_ne_none, ha, hb]
  | array items =>
    match items with
    | [] => simp [record?]
    | [_] => simp [record?]
    | [_, _] => simp [record?]
    | _ :: _ :: _ :: _ => simp [record?]
  | _ => simp [record?]

end DocIndex.Json
