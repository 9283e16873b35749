import DocIndex.Proofs.Signature.Scales

/-!
The range of distances. Exact scores are computed once more, with an eye on each mean: whether it
divides by zero, and whether its bound lowers it. Neither happens in a distance, which is always
from 0 to 1.
-/
namespace DocIndex

namespace Scale

/-- What a mean of exact scores passes over. -/
inductive Fault where
  /-- A division by zero. -/
  | dividedByZero
  /-- A bound below the value that it bounds. -/
  | lowered
  deriving DecidableEq

abbrev Checked := Except Fault ℚ

namespace Checked

instance : Add Checked where
  add a b := do return (← a) + (← b)

instance : Div Checked where
  div a b := do
    let x ← a
    let y ← b
    if y = 0 then throw .dividedByZero else return x / y

/-- The second score is a bound that may not lower the first one. -/
instance : Min Checked where
  min a b := do
    let x ← a
    let y ← b
    if x ≤ y then return x else throw .lowered

instance : Scale Checked where
  perfect := .ok perfect
  slight := .ok slight
  low := .ok low
  medium := .ok medium
  unrelated := .ok unrelated
  mean := clampedMean fun n => .ok n
  midpoint a b := (a + b) / .ok 2
  le a b :=
    match a, b with
    | .ok x, .ok y => le x y
    | _, _ => false
  hundredths a :=
    match a with
    | .ok x => hundredths x
    | .error _ => 0

theorem add_ok (x y : ℚ) : (.ok x + .ok y : Checked) = .ok (x + y) := rfl

theorem div_ok {y : ℚ} (hy : y ≠ 0) (x : ℚ) : (.ok x / .ok y : Checked) = .ok (x / y) :=
  if_neg hy

theorem min_ok (x y : ℚ) :
    min (.ok x : Checked) (.ok y) = if x ≤ y then .ok x else .error .lowered := rfl

theorem foldl_add_ok (x : ℚ) (ds : List ℚ) :
    (ds.map Except.ok).foldl (· + ·) (.ok x : Checked) = .ok (ds.foldl (· + ·) x) := by
  induction ds generalizing x with
  | nil => rfl
  | cons d ds ih => rw [List.map_cons, List.foldl_cons, List.foldl_cons, add_ok, ih]

theorem midpoint_ok (x y : ℚ) : (midpoint (.ok x) (.ok y) : Checked) = .ok (midpoint x y) :=
  div_ok two_ne_zero (x + y)

/-- The mean of scores has no fault but that its bound may lower it. -/
theorem mean_ok (ds : List ℚ) :
    (mean (ds.map Except.ok) : Checked) =
      if ds.sum / ds.length ≤ 1 then .ok (mean ds) else .error .lowered := by
  change clampedMean (fun n => (.ok n : Checked)) (ds.map Except.ok) = _
  cases ds with
  | nil => simp [clampedMean, mean_rat]
  | cons d ds =>
    have hlength : ((d :: ds).length : ℚ) ≠ 0 := Nat.cast_ne_zero.mpr (Nat.succ_ne_zero _)
    have hsum : (d :: ds).foldl (· + ·) 0 = (d :: ds).sum := List.sum_eq_foldl.symm
    simp only [clampedMean, List.isEmpty_map, List.isEmpty_cons, Bool.false_eq_true, if_false,
      foldl_add_ok, List.length_map, div_ok hlength, min_ok, Nat.cast_zero, Nat.cast_one, hsum]
    split
    next hle => rw [mean_rat, if_neg (List.cons_ne_nil d ds), min_eq_left hle]
    next => rfl

example : (mean [.ok 1, .ok 2] : Checked) = .error .lowered ∧
    (.ok 0 / .ok 0 : Checked) = .error .dividedByZero := by decide +kernel

end Checked

structure Sound (a : Checked) (x : ℚ) : Prop where
  eq : a = .ok x
  nonneg : 0 ≤ x
  le_one : x ≤ 1

theorem sound_of_forall₂ {as : List Checked} {xs : List ℚ} (h : List.Forall₂ Sound as xs) :
    as = xs.map Except.ok ∧ ∀ x ∈ xs, 0 ≤ x ∧ x ≤ 1 := by
  induction h with
  | nil => exact ⟨rfl, List.forall_mem_nil _⟩
  | cons ha _ ih =>
    obtain ⟨hmap, hrange⟩ := ih
    refine ⟨?_, List.forall_mem_cons.mpr ⟨⟨ha.nonneg, ha.le_one⟩, hrange⟩⟩
    rw [ha.eq, hmap, List.map_cons]

theorem related_sound : Related Sound where
  perfect := ⟨rfl, le_refl 0, zero_le_one⟩
  low := ⟨rfl, by norm_num [low], by norm_num [low]⟩
  medium := ⟨rfl, by norm_num [medium], by norm_num [medium]⟩
  unrelated := ⟨rfl, zero_le_one, le_refl 1⟩
  mean as xs h := by
    obtain ⟨hmap, hrange⟩ := sound_of_forall₂ h
    have hle := sum_div_length_le_one fun x hx => (hrange x hx).2
    refine ⟨?_, mean_nonneg fun x hx => (hrange x hx).1, mean_le_one xs⟩
    rw [hmap, Checked.mean_ok, if_pos hle]
  midpoint a b x y ha hb := by
    refine ⟨?_, midpoint_nonneg ha.nonneg hb.nonneg, midpoint_le_one ha.le_one hb.le_one⟩
    rw [ha.eq, hb.eq, Checked.midpoint_ok]

end Scale

namespace Ty

/-- Exact distances are from 0 to 1, and checks find no fault with them: no mean on the way divides
by zero, and no bound of one changes its value. -/
theorem distance_in_range (q c : Ty) :
    0 ≤ (q.distance c : ℚ) ∧ (q.distance c : ℚ) ≤ 1 ∧
      (q.distance c : Scale.Checked) = .ok (q.distance c) := by
  obtain ⟨hchecked, hnonneg, hle⟩ := distance_related Scale.related_sound q c
  exact ⟨hnonneg, hle, hchecked⟩

end Ty

end DocIndex
