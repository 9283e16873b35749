import DocIndex.Proofs.Signature.WellFormed
import Mathlib.Data.Set.Function

/-!
The canonical form decides whether two types are the same up to the names of their free variables.
Renamings make an equivalence, every type is equivalent to its canonical form, and a renaming does
not change at which place among the free variables a variable appears first.
-/
namespace DocIndex

/-- Names that stay apart are renamed without changing which of them are repeated. -/
theorem eraseDups_map_of_injOn {f : Text → Text} {xs : List Text}
    (h : Set.InjOn f {x | x ∈ xs}) : (xs.map f).eraseDups = xs.eraseDups.map f := by
  induction hn : xs.length using Nat.strong_induction_on generalizing xs with
  | _ n ih =>
    cases xs with
    | nil => rfl
    | cons x xs =>
      have hlt : (xs.filter fun y => !y == x).length < n := by
        have hle := List.length_filter_le (fun y => !y == x) xs
        rw [List.length_cons] at hn
        omega
      have hfilter : (xs.map f).filter (fun z => !z == f x) =
          (xs.filter fun y => !y == x).map f := by
        rw [List.filter_map]
        congr 1
        refine List.filter_congr fun y hy => ?_
        have hiff : f y = f x ↔ y = x :=
          h.eq_iff (List.mem_cons_of_mem x hy) List.mem_cons_self
        by_cases hyx : y = x <;> simp [hiff, hyx]
      have hinj : Set.InjOn f {y | y ∈ xs.filter fun y => !y == x} :=
        h.mono fun y hy => List.mem_cons_of_mem x (List.mem_of_mem_filter hy)
      rw [List.map_cons, List.eraseDups_cons, List.eraseDups_cons, List.map_cons, hfilter,
        ih _ hlt hinj rfl]

theorem idxOf_map_of_injOn {f : Text → Text} {xs : List Text} (h : Set.InjOn f {x | x ∈ xs})
    {v : Text} (hv : v ∈ xs) : (xs.map f).idxOf (f v) = xs.idxOf v := by
  induction xs with
  | nil => cases hv
  | cons x xs ih =>
    have hiff : f x = f v ↔ x = v := h.eq_iff List.mem_cons_self hv
    by_cases hx : x = v
    · simp [hx]
    · have hmem : v ∈ xs := (List.mem_cons.mp hv).resolve_left fun hvx => hx hvx.symm
      have hne : ¬ f x = f v := fun heq => hx (hiff.mp heq)
      rw [List.map_cons, List.idxOf_cons_ne _ hne, List.idxOf_cons_ne _ hx,
        ih (h.mono fun y hy => List.mem_cons_of_mem x hy) hmem]

namespace Ty

theorem varsAll_eq_flatMap : ∀ ts : List Ty, varsAll ts = ts.flatMap vars
  | [] => rfl
  | t :: ts => by simp [varsAll, varsAll_eq_flatMap ts]

theorem varsFields_eq_flatMap : ∀ fields : List (Text × Ty),
    varsFields fields = fields.flatMap fun f => f.2.vars
  | [] => rfl
  | (_, _) :: fields => by simp [varsFields, varsFields_eq_flatMap fields]

section

variable {f g : Text → Text} {t u v : Ty}

@[simp] theorem vars_rename (f : Text → Text) (t : Ty) : (t.rename f).vars = t.vars.map f := by
  induction t with
  | var name => rfl
  | apply head args ih =>
    simp only [rename, renameAll_eq_map, vars, varsAll_eq_flatMap, List.flatMap_map,
      List.map_flatMap]
    exact List.flatMap_congr ih
  | function args result ih ihr =>
    simp only [rename, renameAll_eq_map, vars, varsAll_eq_flatMap, List.flatMap_map,
      List.map_append, List.map_flatMap, ihr]
    rw [List.flatMap_congr ih]
  | tuple items ih =>
    simp only [rename, renameAll_eq_map, vars, varsAll_eq_flatMap, List.flatMap_map,
      List.map_flatMap]
    exact List.flatMap_congr ih
  | record fields base ih =>
    simp only [rename, renameFields_eq_map, vars, varsFields_eq_flatMap, List.flatMap_map,
      List.map_append, List.map_flatMap, Option.toList_map]
    rw [List.flatMap_congr ih]

/-- Renamings that agree on the variables of a type rename it alike. -/
theorem rename_congr (h : ∀ x ∈ t.vars, f x = g x) : t.rename f = t.rename g := by
  induction t with
  | var name => rw [rename, rename, h name (by simp [vars])]
  | apply head args ih =>
    simp only [vars, varsAll_eq_flatMap, List.mem_flatMap] at h
    simp only [rename, renameAll_eq_map]
    rw [List.map_congr_left fun a ha => ih a ha fun x hx => h x ⟨a, ha, hx⟩]
  | function args result ih ihr =>
    simp only [vars, varsAll_eq_flatMap, List.mem_append, List.mem_flatMap] at h
    simp only [rename, renameAll_eq_map]
    rw [List.map_congr_left fun a ha => ih a ha fun x hx => h x (.inl ⟨a, ha, hx⟩),
      ihr fun x hx => h x (.inr hx)]
  | tuple items ih =>
    simp only [vars, varsAll_eq_flatMap, List.mem_flatMap] at h
    simp only [rename, renameAll_eq_map]
    rw [List.map_congr_left fun a ha => ih a ha fun x hx => h x ⟨a, ha, hx⟩]
  | record fields base ih =>
    simp only [vars, varsFields_eq_flatMap, List.mem_append, List.mem_flatMap,
      Option.mem_toList] at h
    have hfields : fields.map (fun p => (p.1, p.2.rename f)) =
        fields.map fun p => (p.1, p.2.rename g) :=
      List.map_congr_left fun p hp => by rw [ih p hp fun x hx => h x (.inr ⟨p, hp, hx⟩)]
    have hbase : base.map f = base.map g := Option.map_congr fun x hx => h x (.inl hx)
    rw [rename, rename, renameFields_eq_map, renameFields_eq_map, hfields, hbase]

theorem rename_rename (f g : Text → Text) (t : Ty) :
    (t.rename f).rename g = t.rename (g ∘ f) := by
  induction t with
  | var name => rfl
  | apply head args ih =>
    have hargs : args.map (rename g ∘ rename f) = args.map (rename (g ∘ f)) :=
      List.map_congr_left ih
    simp only [rename, renameAll_eq_map, List.map_map, hargs]
  | function args result ih ihr =>
    have hargs : args.map (rename g ∘ rename f) = args.map (rename (g ∘ f)) :=
      List.map_congr_left ih
    simp only [rename, renameAll_eq_map, List.map_map, hargs, ihr]
  | tuple items ih =>
    have hitems : items.map (rename g ∘ rename f) = items.map (rename (g ∘ f)) :=
      List.map_congr_left ih
    simp only [rename, renameAll_eq_map, List.map_map, hitems]
  | record fields base ih =>
    have hfields : fields.map (fun p => (p.1, (p.2.rename f).rename g)) =
        fields.map fun p => (p.1, p.2.rename (g ∘ f)) :=
      List.map_congr_left fun p hp => by rw [ih p hp]
    simp only [rename, renameFields_eq_map, List.map_map, Option.map_map, Function.comp_def]
    exact congrArg (record · _) hfields

theorem rename_id (t : Ty) : t.rename id = t := by
  induction t with
  | var name => rfl
  | apply head args ih => simp [rename, List.map_congr_left ih]
  | function args result ih ihr => simp [rename, List.map_congr_left ih, ihr]
  | tuple items ih => simp [rename, List.map_congr_left ih]
  | record fields base ih =>
    rw [rename, renameFields_eq_map, List.map_congr_left fun p hp => by rw [ih p hp]]
    simp

def free (t : Ty) : Set Text := {x | x ∈ t.vars ∧ isConstrained x = false}

theorem mem_freeVars_iff {x : Text} : x ∈ t.freeVars ↔ x ∈ t.free := by
  simp [freeVars, free, List.mem_filter]

/-- The renaming turns `t` into `u`. It takes the free variables of the one to those of the other,
one to one, and leaves constrained variables as they are. -/
structure Renames (f : Text → Text) (t u : Ty) : Prop where
  bijOn : Set.BijOn f t.free u.free
  fixed : ∀ x, isConstrained x = true → f x = x
  rename_eq : t.rename f = u

namespace Renames

theorem isConstrained_eq (h : Renames f t u) {x : Text} (hx : x ∈ t.vars) :
    isConstrained (f x) = isConstrained x := by
  cases hc : isConstrained x with
  | true => rw [h.fixed x hc, hc]
  | false => exact (h.bijOn.mapsTo ⟨hx, hc⟩).2

theorem symm (h : Renames f t u) : ∃ g, Renames g u t := by
  let g : Text → Text := fun x => if isConstrained x then x else Function.invFunOn f t.free x
  have hfree : Set.EqOn g (Function.invFunOn f t.free) u.free := fun x hx => if_neg (by simp [hx.2])
  have hinv : Set.InvOn g f t.free u.free :=
    ⟨fun x hx => (hfree (h.bijOn.mapsTo hx)).trans (h.bijOn.invOn_invFunOn.1 hx),
      fun x hx => (congrArg f (hfree hx)).trans (h.bijOn.invOn_invFunOn.2 hx)⟩
  refine ⟨g, (hinv.symm).bijOn (h.bijOn.surjOn.mapsTo_invFunOn.congr hfree.symm) h.bijOn.mapsTo,
    fun x hx => if_pos hx, ?_⟩
  rw [← h.rename_eq, rename_rename]
  conv_rhs => rw [← rename_id t]
  refine rename_congr fun x hx => ?_
  cases hc : isConstrained x with
  | true => exact (congrArg g (h.fixed x hc)).trans (if_pos hc)
  | false => exact hinv.1 ⟨hx, hc⟩

theorem trans (h : Renames f t u) (h' : Renames g u v) : Renames (g ∘ f) t v where
  bijOn := h'.bijOn.comp h.bijOn
  fixed x hx := by rw [Function.comp_apply, h.fixed x hx, h'.fixed x hx]
  rename_eq := by rw [← rename_rename, h.rename_eq, h'.rename_eq]

theorem freeVars_eq (h : Renames f t u) : u.freeVars = t.freeVars.map f := by
  have hvars : (t.vars.map f).filter (fun x => !isConstrained x) =
      (t.vars.filter fun x => !isConstrained x).map f := by
    rw [List.filter_map]
    congr 1
    exact List.filter_congr fun x hx => by simp [h.isConstrained_eq hx]
  have hinj : Set.InjOn f {x | x ∈ t.vars.filter fun x => !isConstrained x} :=
    h.bijOn.injOn.mono fun x hx => by simpa [free] using hx
  rw [freeVars, ← h.rename_eq, vars_rename, hvars, eraseDups_map_of_injOn hinj, freeVars]

/-- A free variable appears at the same place among the free variables after a renaming. -/
theorem canonicalVar_eq (h : Renames f t u) {x : Text} (hx : x ∈ t.vars) :
    canonicalVar u.freeVars (f x) = canonicalVar t.freeVars x := by
  unfold canonicalVar
  rw [h.isConstrained_eq hx]
  split
  next hc => exact h.fixed x hc
  next hc =>
    have hmem : x ∈ t.freeVars := mem_freeVars_iff.mpr ⟨hx, by simpa using hc⟩
    have hinj : Set.InjOn f {x | x ∈ t.freeVars} :=
      h.bijOn.injOn.mono fun x hx => mem_freeVars_iff.mp hx
    rw [h.freeVars_eq, idxOf_map_of_injOn hinj hmem]

theorem normalize_eq (h : Renames f t u) : t.normalize = u.normalize := by
  calc t.normalize = t.rename (canonicalVar u.freeVars ∘ f) :=
        rename_congr fun x hx => (h.canonicalVar_eq hx).symm
    _ = (t.rename f).rename (canonicalVar u.freeVars) := (rename_rename f _ t).symm
    _ = u.normalize := by rw [h.rename_eq, normalize]

end Renames

/-- A canonical name is a letter with digits after it, and no constraint is of that form. -/
theorem isConstrained_canonicalName (i : Nat) : isConstrained (canonicalName i) = false := by
  have hletters : ∀ p ∈ constraints, ∃ d ∈ p.tail, d.isDigit = false := by simp [constraints]
  obtain ⟨c, digits, hname, -, hdigits⟩ := canonicalName_eq i
  rw [hname, isConstrained, List.any_eq_false]
  intro p hp hstart
  obtain ⟨d, hd, hnot⟩ := hletters p hp
  obtain ⟨rest, hrest⟩ := List.isPrefixOf_iff_prefix.mp hstart
  have hmem : d ∈ digits := by
    cases p with
    | nil => cases hd
    | cons a p =>
      rw [← (List.cons.inj hrest).2]
      exact List.mem_append_left rest hd
  rw [hdigits d hmem] at hnot
  cases hnot

theorem canonicalName_injective : Function.Injective canonicalName := by
  intro i j h
  have hletter : ∀ k < 26, (Char.ofNat ('a'.toNat + k)).toNat = 'a'.toNat + k := by decide +kernel
  obtain ⟨hfirst, hdigits⟩ := List.cons.inj h
  have hmod : i % 26 = j % 26 := by
    have hcode := congrArg Char.toNat hfirst
    rw [hletter _ (Nat.mod_lt i (by decide)), hletter _ (Nat.mod_lt j (by decide))] at hcode
    omega
  have hdiv : i / 26 = j / 26 := by
    have hne : ∀ n, Text.ofNat n ≠ [] := fun n => Nat.toDigits_ne_nil
    split at hdigits
    next hi =>
      split at hdigits
      next hj => rw [hi, hj]
      next => exact absurd hdigits.symm (hne _)
    next =>
      split at hdigits
      next => exact absurd hdigits (hne _)
      next => exact Text.ofNat_injective hdigits
  omega

/-- Two variables of a type never get the same canonical name. -/
theorem canonicalVar_injOn (t : Ty) : Set.InjOn (canonicalVar t.freeVars) {x | x ∈ t.vars} := by
  intro x hx y hy h
  unfold canonicalVar at h
  split at h
  next hcx =>
    split at h
    next => exact h
    next =>
      rw [h, isConstrained_canonicalName] at hcx
      cases hcx
  next hcx =>
    split at h
    next hcy =>
      rw [← h, isConstrained_canonicalName] at hcy
      cases hcy
    next hcy =>
      have hmx : x ∈ t.freeVars := mem_freeVars_iff.mpr ⟨hx, by simpa using hcx⟩
      exact (List.idxOf_inj hmx).mp (canonicalName_injective h)

/-- What keeps free variables free and apart, and constrained ones as they are, is a renaming. -/
theorem renames_rename (hinj : Set.InjOn f t.free)
    (hfree : ∀ x ∈ t.free, isConstrained (f x) = false)
    (hfixed : ∀ x, isConstrained x = true → f x = x) : Renames f t (t.rename f) where
  bijOn := by
    refine ⟨fun x hx => ⟨?_, hfree x hx⟩, hinj, fun y hy => ?_⟩
    · rw [vars_rename]
      exact List.mem_map_of_mem hx.1
    · obtain ⟨hy, hc⟩ := hy
      rw [vars_rename] at hy
      obtain ⟨x, hx, rfl⟩ := List.mem_map.mp hy
      refine ⟨x, ⟨hx, ?_⟩, rfl⟩
      cases hcx : isConstrained x with
      | true => rw [hfixed x hcx, hcx] at hc; cases hc
      | false => rfl
  fixed := hfixed
  rename_eq := rfl

theorem renames_normalize (t : Ty) : Renames (canonicalVar t.freeVars) t t.normalize := by
  refine renames_rename (t.canonicalVar_injOn.mono fun x hx => hx.1) (fun x hx => ?_) fun x hx => ?_
  · have hname : canonicalVar t.freeVars x = canonicalName (t.freeVars.idxOf x) := by
      simp [canonicalVar, hx.2]
    rw [hname]
    exact isConstrained_canonicalName _
  · simp [canonicalVar, hx]

/-- Types have one canonical form exactly if renaming the free variables makes them equal. -/
theorem normalize_eq_normalize_iff (t u : Ty) :
    t.normalize = u.normalize ↔ ∃ f, Renames f t u := by
  refine ⟨fun h => ?_, fun ⟨f, hf⟩ => hf.normalize_eq⟩
  obtain ⟨g, hg⟩ := u.renames_normalize.symm
  exact ⟨_, t.renames_normalize.trans (h ▸ hg)⟩

end

/-- Merging functions keeps the variables in their places. -/
@[simp] theorem vars_flat (t : Ty) : t.flat.vars = t.vars := by
  have hmerge : ∀ (args : List Ty) (result : Ty),
      (merge args result).vars = varsAll args ++ result.vars := by
    intro args result
    cases result <;> simp [merge, vars, varsAll_eq_flatMap]
  induction t with
  | var name => rfl
  | apply head args ih =>
    simp only [flat, flatAll_eq_map, vars, varsAll_eq_flatMap, List.flatMap_map]
    exact List.flatMap_congr ih
  | function args result ih ihr =>
    simp only [flat, flatAll_eq_map, hmerge, vars, varsAll_eq_flatMap, List.flatMap_map, ihr]
    rw [List.flatMap_congr ih]
  | tuple items ih =>
    simp only [flat, flatAll_eq_map, vars, varsAll_eq_flatMap, List.flatMap_map]
    exact List.flatMap_congr ih
  | record fields base ih =>
    simp only [flat, flatFields_eq_map, vars, varsFields_eq_flatMap, List.flatMap_map]
    rw [List.flatMap_congr ih]

theorem flat_rename (f : Text → Text) (t : Ty) : (t.rename f).flat = t.flat.rename f := by
  have hmerge : ∀ (args : List Ty) (result : Ty),
      (merge args result).rename f = merge (args.map (rename f)) (result.rename f) := by
    intro args result
    cases result <;> simp [merge, rename]
  induction t with
  | var name => rfl
  | apply head args ih =>
    simp only [flat, rename, flatAll_eq_map, renameAll_eq_map, List.map_map]
    exact congrArg (apply head) (List.map_congr_left ih)
  | function args result ih ihr =>
    simp only [flat, rename, flatAll_eq_map, renameAll_eq_map, List.map_map, hmerge, ihr]
    exact congrArg (merge · _) (List.map_congr_left ih)
  | tuple items ih =>
    simp only [flat, rename, flatAll_eq_map, renameAll_eq_map, List.map_map]
    exact congrArg tuple (List.map_congr_left ih)
  | record fields base ih =>
    simp only [flat, rename, flatFields_eq_map, renameFields_eq_map, List.map_map]
    exact congrArg (record · _) (List.map_congr_left fun p hp => Prod.ext rfl (ih p hp))

/-- So the merged type has the merged canonical form. -/
theorem normalize_flat (t : Ty) : t.flat.normalize = t.normalize.flat := by
  rw [normalize, normalize, flat_rename, freeVars, freeVars, vars_flat]

theorem uncurried_rename_iff {f : Text → Text} {t : Ty} :
    Uncurried (t.rename f) ↔ Uncurried t := by
  constructor
  · intro h
    induction t with
    | var name => exact .var
    | apply head args ih =>
      rw [rename, renameAll_eq_map] at h
      cases h with
      | apply h => exact .apply fun a ha => ih a ha (h _ (List.mem_map_of_mem ha))
    | function args result ih ihr =>
      rw [rename, renameAll_eq_map] at h
      cases h with
      | function h hr hf =>
        rw [isFunction_rename] at hf
        exact .function (fun a ha => ih a ha (h _ (List.mem_map_of_mem ha))) (ihr hr) hf
    | tuple items ih =>
      rw [rename, renameAll_eq_map] at h
      cases h with
      | tuple h => exact .tuple fun i hi => ih i hi (h _ (List.mem_map_of_mem hi))
    | record fields base ih =>
      rw [rename, renameFields_eq_map] at h
      cases h with
      | record h => exact .record fun p hp => ih p hp (h _ (List.mem_map_of_mem hp))
  · intro h
    induction h with
    | var => exact .var
    | apply _ ih =>
      rw [rename, renameAll_eq_map]
      exact .apply (List.forall_mem_map.mpr ih)
    | function _ _ hf ih ihr =>
      rw [rename, renameAll_eq_map]
      exact .function (List.forall_mem_map.mpr ih) ihr (by rw [isFunction_rename, hf])
    | tuple _ ih =>
      rw [rename, renameAll_eq_map]
      exact .tuple (List.forall_mem_map.mpr ih)
    | record _ ih =>
      rw [rename, renameFields_eq_map]
      exact .record (List.forall_mem_map.mpr ih)

end Ty

end DocIndex
