import DocIndex.Signature.Basic
import Mathlib.Data.List.Basic

/-!
Functions that return functions. A type displays the arrows of such a function in one row, so it
displays like the function that takes all of the arguments at once.
-/
namespace DocIndex.Ty

/-- Induction on a type, with the hypothesis for every type it is made of. -/
@[induction_eliminator]
theorem induction {motive : Ty → Prop} (var : ∀ name, motive (.var name))
    (apply : ∀ head args, (∀ a ∈ args, motive a) → motive (.apply head args))
    (function : ∀ args result, (∀ a ∈ args, motive a) → motive result →
      motive (.function args result))
    (tuple : ∀ items, (∀ i ∈ items, motive i) → motive (.tuple items))
    (record : ∀ fields base, (∀ f ∈ fields, motive f.2) → motive (.record fields base)) :
    ∀ t, motive t
  | .var name => var name
  | .apply head args =>
    apply head args fun a _ha => induction var apply function tuple record a
  | .function args result =>
    function args result (fun a _ha => induction var apply function tuple record a)
      (induction var apply function tuple record result)
  | .tuple items => tuple items fun i _hi => induction var apply function tuple record i
  | .record fields base =>
    record fields base fun f _hf => induction var apply function tuple record f.2
termination_by t => sizeOf t
decreasing_by
  · have hmem := List.sizeOf_lt_of_mem _ha
    simp only [Ty.apply.sizeOf_spec]
    omega
  · have hmem := List.sizeOf_lt_of_mem _ha
    simp only [Ty.function.sizeOf_spec]
    omega
  · simp only [Ty.function.sizeOf_spec]
    omega
  · have hmem := List.sizeOf_lt_of_mem _hi
    simp only [Ty.tuple.sizeOf_spec]
    omega
  · have hmem := List.sizeOf_lt_of_mem _hf
    have hfield : sizeOf f = 1 + sizeOf f.1 + sizeOf f.2 := Prod.mk.sizeOf_spec f.1 f.2
    simp only [Ty.record.sizeOf_spec]
    omega

theorem renameFields_eq_map (f : Text → Text) : ∀ fields : List (Text × Ty),
    renameFields f fields = fields.map fun p => (p.1, p.2.rename f)
  | [] => rfl
  | (_, _) :: fields => by simp [renameFields, renameFields_eq_map f fields]

@[simp] theorem isFunction_rename (f : Text → Text) (t : Ty) :
    (t.rename f).isFunction = t.isFunction := by
  cases t <;> rfl

@[simp] theorem isVar_rename (f : Text → Text) (t : Ty) : (t.rename f).isVar = t.isVar := by
  cases t <;> rfl

@[simp] theorem isCompound_rename (f : Text → Text) (t : Ty) :
    (t.rename f).isCompound = t.isCompound := by
  cases t with
  | apply head args => cases args <;> rfl
  | _ => rfl

theorem argTexts_eq_flatMap : ∀ args : List Ty,
    argTexts args = args.flatMap fun a => ' ' :: enclose a.isCompound a.text
  | [] => rfl
  | a :: args => by simp [argTexts, argTexts_eq_flatMap args]

theorem paramTexts_eq_flatMap : ∀ args : List Ty,
    paramTexts args = args.flatMap fun a => enclose a.isFunction a.text ++ " -> ".toList
  | [] => rfl
  | a :: args => by simp [paramTexts, paramTexts_eq_flatMap args]

theorem fieldTexts_eq_map : ∀ fields : List (Text × Ty),
    fieldTexts fields = fields.map fun f => f.1 ++ " : ".toList ++ f.2.text
  | [] => rfl
  | (_, _) :: fields => by simp [fieldTexts, fieldTexts_eq_map fields]

/-- The function of `args` whose result is `result`, which lends its own arguments if it is a
function. -/
def merge (args : List Ty) : Ty → Ty
  | .function more result => .function (args ++ more) result
  | result => .function args result

mutual

def flat : Ty → Ty
  | .var name => .var name
  | .apply head args => .apply head (flatAll args)
  | .function args result => merge (flatAll args) result.flat
  | .tuple items => .tuple (flatAll items)
  | .record fields base => .record (flatFields fields) base

def flatAll : List Ty → List Ty
  | [] => []
  | t :: ts => t.flat :: flatAll ts

def flatFields : List (Text × Ty) → List (Text × Ty)
  | [] => []
  | (field, t) :: fields => (field, t.flat) :: flatFields fields

end

@[simp] theorem flatAll_eq_map : ∀ ts : List Ty, flatAll ts = ts.map flat
  | [] => rfl
  | t :: ts => by simp [flatAll, flatAll_eq_map ts]

@[simp] theorem flatFields_eq_map : ∀ fields : List (Text × Ty),
    flatFields fields = fields.map fun f => (f.1, f.2.flat)
  | [] => rfl
  | (_, _) :: fields => by simp [flatFields, flatFields_eq_map fields]

def parts : Ty → List Ty
  | .function args result => args ++ [result]
  | t => [t]

theorem parts_of_isFunction {t : Ty} (h : t.isFunction = false) : t.parts = [t] := by
  cases t with
  | function args result => cases h
  | _ => rfl

@[simp] theorem parts_merge (args : List Ty) (result : Ty) :
    (merge args result).parts = args ++ result.parts := by
  cases result <;> simp [merge, parts]

/-- The arguments of a merged function are those it was made with, then those of its result. -/
theorem merge_eq_function_iff {args args' : List Ty} {result result' : Ty} :
    merge args result = .function args' result' ↔
      (∃ more, result = .function more result' ∧ args' = args ++ more) ∨
        (result.isFunction = false ∧ result' = result ∧ args' = args) := by
  cases result <;> simp [merge, isFunction, eq_comm, and_comm]

@[simp] theorem isFunction_merge (args : List Ty) (result : Ty) :
    (merge args result).isFunction = true := by
  cases result <;> rfl

@[simp] theorem isCompound_merge (args : List Ty) (result : Ty) :
    (merge args result).isCompound = true := by
  cases result <;> rfl

@[simp] theorem text_merge (args : List Ty) (result : Ty) :
    (merge args result).text = paramTexts args ++ result.text := by
  cases result <;> simp [merge, text, paramTexts_eq_flatMap]

@[simp] theorem isFunction_flat (t : Ty) : t.flat.isFunction = t.isFunction := by
  cases t with
  | function args result => exact isFunction_merge _ _
  | _ => rfl

@[simp] theorem isCompound_flat (t : Ty) : t.flat.isCompound = t.isCompound := by
  cases t with
  | apply head args => cases args <;> simp [flat, isCompound]
  | function args result => exact isCompound_merge _ _
  | _ => rfl

/-- Merged functions are displayed like the ones they were merged from. -/
theorem text_flat (t : Ty) : t.flat.text = t.text := by
  induction t with
  | var name => rfl
  | apply head args ih =>
    have hargs : argTexts (args.map flat) = argTexts args := by
      simp only [argTexts_eq_flatMap, List.flatMap_map, isCompound_flat]
      exact List.flatMap_congr fun a ha => by rw [ih a ha]
    simp only [flat, flatAll_eq_map, text, hargs]
  | function args result ih ihr =>
    have hargs : paramTexts (args.map flat) = paramTexts args := by
      simp only [paramTexts_eq_flatMap, List.flatMap_map, isFunction_flat]
      exact List.flatMap_congr fun a ha => by rw [ih a ha]
    simp only [flat, flatAll_eq_map, text_merge, text, hargs, ihr]
  | tuple items ih =>
    have hitems : (items.map flat).map text = items.map text := by
      simpa using ih
    simp only [flat, flatAll_eq_map, text, itemTexts_eq_map, hitems]
  | record fields base ih =>
    have hfields : fieldTexts (fields.map fun f => (f.1, f.2.flat)) = fieldTexts fields := by
      simp only [fieldTexts_eq_map, List.map_map]
      exact List.map_congr_left fun f hf => by simp [ih f hf]
    simp only [flat, flatFields_eq_map, text, hfields, List.isEmpty_map]

/-- No function of the type has a function as its result. -/
inductive Uncurried : Ty → Prop where
  | var {name : Text} : Uncurried (.var name)
  | apply {head : Text} {args : List Ty} (h : ∀ a ∈ args, Uncurried a) :
      Uncurried (.apply head args)
  | function {args : List Ty} {result : Ty} (h : ∀ a ∈ args, Uncurried a)
      (hr : Uncurried result) (hf : result.isFunction = false) :
      Uncurried (.function args result)
  | tuple {items : List Ty} (h : ∀ i ∈ items, Uncurried i) : Uncurried (.tuple items)
  | record {fields : List (Text × Ty)} {base : Option Text} (h : ∀ f ∈ fields, Uncurried f.2) :
      Uncurried (.record fields base)

theorem flatAll_eq_self_iff {ts : List Ty} : flatAll ts = ts ↔ ∀ t ∈ ts, t.flat = t := by
  rw [flatAll_eq_map]
  nth_rewrite 2 [← List.map_id' ts]
  exact List.map_inj_left

theorem flatFields_eq_self_iff {fields : List (Text × Ty)} :
    flatFields fields = fields ↔ ∀ f ∈ fields, f.2.flat = f.2 := by
  rw [flatFields_eq_map]
  nth_rewrite 2 [← List.map_id' fields]
  rw [List.map_inj_left]
  simp [Prod.ext_iff]

theorem flat_eq_of_uncurried {t : Ty} (h : Uncurried t) : t.flat = t := by
  induction h with
  | var => rfl
  | apply _ ih => rw [flat, flatAll_eq_self_iff.mpr ih]
  | function _ _ hf ih ihr =>
    rw [flat, flatAll_eq_self_iff.mpr ih, ihr]
    exact merge_eq_function_iff.mpr (.inr ⟨hf, rfl, rfl⟩)
  | tuple _ ih => rw [flat, flatAll_eq_self_iff.mpr ih]
  | record _ ih => rw [flat, flatFields_eq_self_iff.mpr ih]

end DocIndex.Ty
