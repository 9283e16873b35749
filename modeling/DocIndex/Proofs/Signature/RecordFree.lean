import DocIndex.Proofs.Signature.Alike

/-!
Types without records. Both types of a comparison then count alike, so the distance is the same from
either side, on every scale. It is zero exactly if the types are equal up to the qualification of
constructors and the names of free variables.
-/
namespace DocIndex.Ty

inductive RecordFree : Ty → Prop where
  | var {name : Text} : RecordFree (.var name)
  | apply {head : Text} {args : List Ty} (h : ∀ a ∈ args, RecordFree a) :
      RecordFree (.apply head args)
  | function {args : List Ty} {result : Ty} (h : ∀ a ∈ args, RecordFree a)
      (hr : RecordFree result) : RecordFree (.function args result)
  | tuple {items : List Ty} (h : ∀ i ∈ items, RecordFree i) : RecordFree (.tuple items)

theorem RecordFree.rename {t : Ty} (h : RecordFree t) (f : Text → Text) :
    RecordFree (t.rename f) := by
  induction h with
  | var => exact .var
  | apply _ ih =>
    rw [Ty.rename, renameAll_eq_map]
    exact .apply (List.forall_mem_map.mpr ih)
  | function _ _ ih ihr =>
    rw [Ty.rename, renameAll_eq_map]
    exact .function (List.forall_mem_map.mpr ih) ihr
  | tuple _ ih =>
    rw [Ty.rename, renameAll_eq_map]
    exact .tuple (List.forall_mem_map.mpr ih)

section

variable {σ : Type} [Scale σ]

theorem headDistance_comm (head head' : Text) :
    (headDistance head head' : σ) = headDistance head' head := by
  have hsame : (Text.afterLast '.' head = Text.afterLast '.' head') =
      (Text.afterLast '.' head' = Text.afterLast '.' head) := propext eq_comm
  have hfolded : ((Text.afterLast '.' head).map Char.toLower =
        (Text.afterLast '.' head').map Char.toLower) =
      ((Text.afterLast '.' head').map Char.toLower =
        (Text.afterLast '.' head).map Char.toLower) := propext eq_comm
  simp only [headDistance, hsame, hfolded]

theorem distances_comm {ts : List Ty}
    (h : ∀ t ∈ ts, ∀ u : Ty, (t.distance u : σ) = u.distance t) (us : List Ty) :
    (distances ts us : List σ) = distances us ts := by
  rw [distances_eq, distances_eq, ← List.zip_swap, List.map_map]
  refine List.map_congr_left fun p hp => ?_
  exact h p.2 (List.of_mem_zip hp).2 p.1

/-- Without records on one side it makes no difference which type is the query. Nothing is asked of
the scale, so this holds of any way to average scores in sequence. -/
theorem RecordFree.distance_comm {t : Ty} (h : RecordFree t) (u : Ty) :
    (t.distance u : σ) = u.distance t := by
  induction h generalizing u with
  | @var name =>
    cases u with
    | var name' =>
      have hsame : (name = name') = (name' = name) := propext eq_comm
      rw [distance, distance]
      simp only [hsame]
    | _ => rfl
  | @apply head args _ ih =>
    cases u with
    | apply head' args' =>
      rw [distance, distance]
      by_cases hlength : args.length = args'.length
      · have hnil : args.isEmpty = args'.isEmpty := by
          rw [Bool.eq_iff_iff, List.isEmpty_iff_length_eq_zero, List.isEmpty_iff_length_eq_zero,
            hlength]
        rw [if_pos hlength, if_pos hlength.symm, hnil, headDistance_comm, distances_comm ih]
      · rw [if_neg hlength, if_neg (Ne.symm hlength)]
    | _ => rfl
  | @function args result _ _ ih ihr =>
    cases u with
    | function args' result' =>
      rw [distance, distance, distances_comm ih, ihr]
      simp only [eq_comm (a := args.length)]
    | _ => rfl
  | @tuple items _ ih =>
    cases u with
    | tuple items' =>
      rw [distance, distance, distances_comm ih]
      simp only [eq_comm (a := items.length)]
    | _ => rfl

end

def mapTy (dict : Text) (x y : Char) : Ty :=
  .function [.function [.var [x]] (.var [y]), .apply dict [.var "comparable", .var [x]]]
    (.apply dict [.var "comparable", .var [y]])

theorem recordFree_mapTy (dict : Text) (x y : Char) : RecordFree (mapTy dict x y) := by
  have happly : ∀ c : Char, RecordFree (.apply dict [.var "comparable", .var [c]]) :=
    fun c => .apply (by simp [RecordFree.var])
  have hfunction : RecordFree (.function [.var [x]] (.var [y])) :=
    .function (by simp [RecordFree.var]) .var
  exact .function (List.forall_mem_cons.mpr ⟨hfunction, List.forall_mem_singleton.mpr (happly x)⟩)
    (happly y)

theorem distance_comm_mapTy :
    (mapTy "Dict.Dict" 'x' 'y').distance (mapTy "dict" 'x' 'z') = (7 / 48 : ℚ) ∧
      (mapTy "dict" 'x' 'z').distance (mapTy "Dict.Dict" 'x' 'y') = (7 / 48 : ℚ) ∧
      ((mapTy "Dict.Dict" 'x' 'y').distance (mapTy "dict" 'x' 'z') : Float) =
        (mapTy "dict" 'x' 'z').distance (mapTy "Dict.Dict" 'x' 'y') := by
  have hfree := recordFree_mapTy "Dict.Dict" 'x' 'y'
  have hscore : (mapTy "Dict.Dict" 'x' 'y').distance (mapTy "dict" 'x' 'z') = (7 / 48 : ℚ) := by
    decide +kernel
  exact ⟨hscore, (hfree.distance_comm _).symm.trans hscore, hfree.distance_comm _⟩

/-- A candidate may have fields that the query does not ask for, but not the other way around. -/
example : (record [] none).distance (record [("x", var "a")] none) = (1 / 4 : ℚ) ∧
    (record [("x", var "a")] none).distance (record [] none) = (1 : ℚ) := by decide +kernel

mutual

/-- The type with every constructor named by what follows its last dot. -/
def unqualified : Ty → Ty
  | .var name => .var name
  | .apply head args => .apply (Text.afterLast '.' head) (unqualifiedAll args)
  | .function args result => .function (unqualifiedAll args) result.unqualified
  | .tuple items => .tuple (unqualifiedAll items)
  | .record fields base => .record (unqualifiedFields fields) base

def unqualifiedAll : List Ty → List Ty
  | [] => []
  | t :: ts => t.unqualified :: unqualifiedAll ts

def unqualifiedFields : List (Text × Ty) → List (Text × Ty)
  | [] => []
  | (field, t) :: fields => (field, t.unqualified) :: unqualifiedFields fields

end

theorem unqualifiedAll_eq_map : ∀ ts : List Ty, unqualifiedAll ts = ts.map unqualified
  | [] => rfl
  | t :: ts => by simp [unqualifiedAll, unqualifiedAll_eq_map ts]

theorem unqualifiedFields_eq_map : ∀ fields : List (Text × Ty),
    unqualifiedFields fields = fields.map fun f => (f.1, f.2.unqualified)
  | [] => rfl
  | (_, _) :: fields => by simp [unqualifiedFields, unqualifiedFields_eq_map fields]

theorem vars_unqualified (t : Ty) : t.unqualified.vars = t.vars := by
  induction t with
  | var name => rfl
  | apply head args ih =>
    simp only [unqualified, unqualifiedAll_eq_map, vars, varsAll_eq_flatMap, List.flatMap_map]
    exact List.flatMap_congr ih
  | function args result ih ihr =>
    simp only [unqualified, unqualifiedAll_eq_map, vars, varsAll_eq_flatMap, List.flatMap_map, ihr]
    rw [List.flatMap_congr ih]
  | tuple items ih =>
    simp only [unqualified, unqualifiedAll_eq_map, vars, varsAll_eq_flatMap, List.flatMap_map]
    exact List.flatMap_congr ih
  | record fields base ih =>
    simp only [unqualified, unqualifiedFields_eq_map, vars, varsFields_eq_flatMap,
      List.flatMap_map]
    rw [List.flatMap_congr ih]

theorem unqualified_rename (f : Text → Text) (t : Ty) :
    (t.rename f).unqualified = t.unqualified.rename f := by
  induction t with
  | var name => rfl
  | apply head args ih =>
    simp only [unqualified, rename, unqualifiedAll_eq_map, renameAll_eq_map, List.map_map]
    exact congrArg (apply _) (List.map_congr_left ih)
  | function args result ih ihr =>
    simp only [unqualified, rename, unqualifiedAll_eq_map, renameAll_eq_map, List.map_map, ihr]
    exact congrArg (function · _) (List.map_congr_left ih)
  | tuple items ih =>
    simp only [unqualified, rename, unqualifiedAll_eq_map, renameAll_eq_map, List.map_map]
    exact congrArg tuple (List.map_congr_left ih)
  | record fields base ih =>
    simp only [unqualified, rename, unqualifiedFields_eq_map, renameFields_eq_map, List.map_map]
    exact congrArg (record · _) (List.map_congr_left fun p hp => Prod.ext rfl (ih p hp))

/-- So constructors can be unqualified before variables are named or after. -/
theorem normalize_unqualified (t : Ty) : t.unqualified.normalize = t.normalize.unqualified := by
  rw [normalize, normalize, unqualified_rename, freeVars, freeVars, vars_unqualified]

theorem map_unqualified_eq_iff {ts : List Ty}
    (h : ∀ t ∈ ts, ∀ u, Alike t u ↔ t.unqualified = u.unqualified) (us : List Ty) :
    ts.map unqualified = us.map unqualified ↔
      ts.length = us.length ∧ ∀ p ∈ ts.zip us, Alike p.1 p.2 := by
  induction ts generalizing us with
  | nil =>
    cases us with
    | nil => simp
    | cons u us => simp
  | cons t ts ih =>
    obtain ⟨ht, hts⟩ := List.forall_mem_cons.mp h
    cases us with
    | nil => simp
    | cons u us =>
      rw [List.map_cons, List.map_cons, List.cons.injEq, ih hts, ← ht, List.zip_cons_cons,
        List.forall_mem_cons, List.length_cons, List.length_cons, Nat.succ_inj]
      exact and_left_comm

/-- Without records nothing is left unsaid but the qualification of constructors. -/
theorem RecordFree.alike_iff {t : Ty} (h : RecordFree t) (u : Ty) :
    Alike t u ↔ t.unqualified = u.unqualified := by
  induction h generalizing u with
  | var =>
    cases u with
    | var name' => rw [alike_var_iff, unqualified, unqualified, var.injEq]
    | _ => exact iff_of_false nofun nofun
  | apply _ ih =>
    cases u with
    | apply head' args' =>
      rw [alike_apply_iff, ← map_unqualified_eq_iff ih, unqualified, unqualified, apply.injEq,
        unqualifiedAll_eq_map, unqualifiedAll_eq_map]
    | _ => exact iff_of_false nofun nofun
  | function _ _ ih ihr =>
    cases u with
    | function args' result' =>
      rw [alike_function_iff, ← and_assoc, ← map_unqualified_eq_iff ih, ihr, unqualified,
        unqualified, function.injEq, unqualifiedAll_eq_map, unqualifiedAll_eq_map]
    | _ => exact iff_of_false nofun nofun
  | tuple _ ih =>
    cases u with
    | tuple items' =>
      rw [alike_tuple_iff, ← map_unqualified_eq_iff ih, unqualified, unqualified, tuple.injEq,
        unqualifiedAll_eq_map, unqualifiedAll_eq_map]
    | _ => exact iff_of_false nofun nofun

/-- If one of two types has no records, the exact distance of their canonical forms is zero exactly
if they are equal up to the qualification of constructors and the names of free variables, which are
renamed one to one. Any type is at no distance from itself unless one of its records repeats a field
name. -/
theorem distance_normalize_eq_zero_iff :
    (∀ t u : Ty, RecordFree t →
      (t.normalize.distance u.normalize = (0 : ℚ) ↔
        ∃ f, Renames f t.unqualified u.unqualified)) ∧
    ∀ t : Ty, DistinctFields t → t.distance t = (0 : ℚ) := by
  refine ⟨fun t u ht => ?_, fun t hd => distance_eq_zero_iff.mpr (alike_self hd)⟩
  calc t.normalize.distance u.normalize = (0 : ℚ) ↔ Alike t.normalize u.normalize :=
        distance_eq_zero_iff
    _ ↔ t.normalize.unqualified = u.normalize.unqualified := (ht.rename _).alike_iff _
    _ ↔ t.unqualified.normalize = u.unqualified.normalize := by
        rw [normalize_unqualified, normalize_unqualified]
    _ ↔ ∃ f, Renames f t.unqualified u.unqualified := normalize_eq_normalize_iff _ _

theorem distance_normalize_mapTy :
    (mapTy "Dict.Dict" 'x' 'y').normalize.distance (mapTy "Dict" 'b' 'a').normalize = (0 : ℚ) ∧
      (∃ f, Renames f (mapTy "Dict.Dict" 'x' 'y').unqualified
        (mapTy "Dict" 'b' 'a').unqualified) ∧
      (¬∃ f, Renames f (mapTy "Dict" 'x' 'y').unqualified (mapTy "Dict" 'x' 'x').unqualified) ∧
      (record [("key", var "comparable"), ("value", var "v")] (some "r")).distance
        (record [("key", var "comparable"), ("value", var "v")] (some "r")) = (0 : ℚ) := by
  obtain ⟨hcanonical, hself⟩ := distance_normalize_eq_zero_iff
  have hzero : (mapTy "Dict.Dict" 'x' 'y').normalize.distance
    (mapTy "Dict" 'b' 'a').normalize = (0 : ℚ) := by decide +kernel
  have hapart : (mapTy "Dict" 'x' 'y').normalize.distance
    (mapTy "Dict" 'x' 'x').normalize ≠ (0 : ℚ) := by decide +kernel
  refine ⟨hzero, (hcanonical _ _ (recordFree_mapTy _ _ _)).mp hzero, fun hrenames => ?_, ?_⟩
  · exact hapart ((hcanonical _ _ (recordFree_mapTy _ _ _)).mpr hrenames)
  · exact hself _ (.record (by simp) (by simp [DistinctFields.var]))

end DocIndex.Ty
