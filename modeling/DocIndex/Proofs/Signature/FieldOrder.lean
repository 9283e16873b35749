import DocIndex.Proofs.Signature.Alike

/-!
The order in which records list their fields. As a query looks the fields of a candidate up by name,
the exact distance does not depend on the order of its own.
-/
namespace DocIndex.Ty

/-- The types are the same up to the order of the fields in records. The fields of one record stand
aligned with those of the other before they are put into their order there. -/
inductive Reordered : Ty → Ty → Prop where
  | var (name : Text) : Reordered (.var name) (.var name)
  | apply {head : Text} {args args' : List Ty} (hlength : args.length = args'.length)
      (h : ∀ p ∈ args.zip args', Reordered p.1 p.2) :
      Reordered (.apply head args) (.apply head args')
  | function {args args' : List Ty} {result result' : Ty} (hlength : args.length = args'.length)
      (h : ∀ p ∈ args.zip args', Reordered p.1 p.2) (hr : Reordered result result') :
      Reordered (.function args result) (.function args' result')
  | tuple {items items' : List Ty} (hlength : items.length = items'.length)
      (h : ∀ p ∈ items.zip items', Reordered p.1 p.2) : Reordered (.tuple items) (.tuple items')
  | record {fields fields' aligned : List (Text × Ty)} {base : Option Text}
      (hlength : fields.length = aligned.length) (hnames : ∀ p ∈ fields.zip aligned, p.1.1 = p.2.1)
      (h : ∀ p ∈ fields.zip aligned, Reordered p.1.2 p.2.2) (hperm : aligned.Perm fields') :
      Reordered (.record fields base) (.record fields' base)

theorem Reordered.isVar_eq {t u : Ty} (h : Reordered t u) : u.isVar = t.isVar := by
  cases h <;> rfl

theorem map_eq_map_of_zip {α β : Type} {φ ψ : α → β} {xs ys : List α}
    (hlength : xs.length = ys.length) (h : ∀ p ∈ xs.zip ys, φ p.1 = ψ p.2) :
    xs.map φ = ys.map ψ := by
  refine List.ext_getElem (by simpa using hlength) fun i hx hy => ?_
  rw [List.length_map] at hx hy
  have hmem : (xs[i], ys[i]) ∈ xs.zip ys := by
    rw [← List.getElem_zip (h := by simp [hx, hy])]
    exact List.getElem_mem _
  simpa using h _ hmem

section

variable {f g : Text → Text} {t u : Ty}

theorem distances_rename_congr {ts us : List Ty} (hlength : ts.length = us.length)
    (h : ∀ p ∈ ts.zip us, ∀ c, ((p.1.rename f).distance c : ℚ) = (p.2.rename g).distance c)
    (cs : List Ty) :
    (distances (ts.map (rename f)) cs : List ℚ) = distances (us.map (rename g)) cs := by
  induction ts generalizing us cs with
  | nil =>
    obtain rfl := List.length_eq_zero_iff.mp hlength.symm
    rfl
  | cons t ts ih =>
    obtain ⟨u, us, rfl⟩ := List.exists_cons_of_length_eq_add_one hlength.symm
    rw [List.zip_cons_cons, List.forall_mem_cons] at h
    cases cs with
    | nil => rfl
    | cons c cs =>
      rw [List.map_cons, List.map_cons, distances, distances, h.1, ih (Nat.succ.inj hlength) h.2]

theorem isEmpty_eq_of_length_eq {α : Type} {xs ys : List α} (h : xs.length = ys.length) :
    xs.isEmpty = ys.isEmpty := by
  rw [Bool.eq_iff_iff, List.isEmpty_iff_length_eq_zero, List.isEmpty_iff_length_eq_zero, h]

/-- Exact distances from a query do not depend on the order in which it lists the fields of records,
nor on how it names the variables that are not compared. -/
theorem Reordered.distance_rename_eq (h : Reordered t u) (hfg : ∀ x ∈ t.comparedVars, f x = g x)
    (c : Ty) : ((t.rename f).distance c : ℚ) = (u.rename g).distance c := by
  induction h generalizing c with
  | var name =>
    rw [rename, rename, hfg name (List.mem_singleton_self name)]
  | @apply head args args' hlength _ ih =>
    simp only [comparedVars, comparedVarsAll_eq_flatMap, List.forall_mem_flatMap] at hfg
    have hparts := distances_rename_congr hlength
      fun p hp => ih p hp (hfg p.1 (List.of_mem_zip hp).1)
    rw [rename, rename, renameAll_eq_map, renameAll_eq_map]
    cases c with
    | apply head' args'' =>
      have hnil := isEmpty_eq_of_length_eq hlength
      rw [distance, distance, hparts]
      simp only [List.length_map, List.isEmpty_map, hlength, hnil]
    | _ => rfl
  | function hlength _ _ ih ihr =>
    simp only [comparedVars, comparedVarsAll_eq_flatMap, List.forall_mem_append,
      List.forall_mem_flatMap] at hfg
    have hparts := distances_rename_congr hlength
      fun p hp => ih p hp (hfg.1 p.1 (List.of_mem_zip hp).1)
    rw [rename, rename, renameAll_eq_map, renameAll_eq_map]
    cases c with
    | function args'' result'' =>
      rw [distance, distance, hparts, ihr hfg.2, List.length_map, List.length_map, hlength]
    | _ => rfl
  | tuple hlength _ ih =>
    simp only [comparedVars, comparedVarsAll_eq_flatMap, List.forall_mem_flatMap] at hfg
    have hparts := distances_rename_congr hlength
      fun p hp => ih p hp (hfg p.1 (List.of_mem_zip hp).1)
    rw [rename, rename, renameAll_eq_map, renameAll_eq_map]
    cases c with
    | tuple items'' =>
      rw [distance, distance, hparts, List.length_map, List.length_map, hlength]
    | _ => rfl
  | @record fields fields' aligned base hlength hnames _ hperm ih =>
    simp only [comparedVars, comparedVarsFields_eq_flatMap, List.forall_mem_flatMap] at hfg
    rw [rename, rename, renameFields_eq_map, renameFields_eq_map]
    cases c with
    | record fields'' base'' =>
      have hfields : (fields.map fun p => fieldDistance fields'' (p.1, p.2.rename f) : List ℚ) =
          aligned.map fun p => fieldDistance fields'' (p.1, p.2.rename g) := by
        refine map_eq_map_of_zip hlength fun p hp => ?_
        simp only [fieldDistance, hnames p hp, ih p hp (hfg p.1 (List.of_mem_zip hp).1)]
      have hnil := isEmpty_eq_of_length_eq (hlength.trans hperm.length_eq)
      rw [distance, distance, fieldDistances_eq, fieldDistances_eq, List.map_map, List.map_map,
        Function.comp_def, Function.comp_def, hfields, Scale.mean_perm (hperm.map _)]
      simp only [List.isEmpty_map, hnil]
    | _ => rfl

end

end DocIndex.Ty
