import DocIndex.Scale.Exact

/-!
The mean of exact scores. It does not depend on their order, and since no score is negative it is
zero only if all of them are.
-/
namespace DocIndex.Scale

theorem mean_rat (ds : List ℚ) :
    mean ds = if ds = [] then 0 else min (ds.sum / ds.length) 1 := by
  change clampedMean (fun n => (n : ℚ)) ds = _
  simp only [clampedMean, List.sum_eq_foldl, List.isEmpty_iff, Nat.cast_zero, Nat.cast_one]

theorem mean_perm {ds es : List ℚ} (h : ds.Perm es) : mean ds = mean es := by
  have hnil : ds = [] ↔ es = [] := by
    rw [← List.length_eq_zero_iff, h.length_eq, List.length_eq_zero_iff]
  simp only [mean_rat, hnil, h.sum_eq, h.length_eq]

theorem mean_nonneg {ds : List ℚ} (h : ∀ d ∈ ds, 0 ≤ d) : 0 ≤ mean ds := by
  rw [mean_rat]
  split
  next => exact le_refl 0
  next => exact le_min (div_nonneg (List.sum_nonneg h) (Nat.cast_nonneg _)) zero_le_one

theorem sum_div_length_le_one {ds : List ℚ} (h : ∀ d ∈ ds, d ≤ 1) : ds.sum / ds.length ≤ 1 := by
  have hsum : ds.sum ≤ ds.length := by simpa using List.sum_le_card_nsmul ds 1 h
  exact div_le_one_of_le₀ hsum (Nat.cast_nonneg _)

theorem mean_le_one (ds : List ℚ) : mean ds ≤ 1 := by
  rw [mean_rat]
  split
  next => exact zero_le_one
  next => exact min_le_right _ _

theorem mean_eq_zero_iff {ds : List ℚ} (h : ∀ d ∈ ds, 0 ≤ d) :
    mean ds = 0 ↔ ∀ d ∈ ds, d = 0 := by
  rw [mean_rat]
  split
  next hnil => simp [hnil]
  next hne =>
    have hlength : (ds.length : ℚ) ≠ 0 := by simpa using hne
    constructor
    · intro hmin
      have hquotient : ds.sum / ds.length = 0 := by
        rcases min_choice (ds.sum / ds.length) (1 : ℚ) with hleft | hright
        · exact hleft.symm.trans hmin
        · exact absurd (hright.symm.trans hmin) one_ne_zero
      have hsum : ds.sum = 0 := (div_eq_zero_iff.mp hquotient).resolve_right hlength
      exact fun d hd => List.all_zero_of_le_zero_le_of_sum_eq_zero h hsum hd
    · intro hzero
      rw [List.sum_eq_zero hzero, zero_div, min_eq_left zero_le_one]

theorem countP_unrelated_le_sum {ds : List ℚ} (h : ∀ d ∈ ds, 0 ≤ d) :
    (ds.countP (· = unrelated) : ℚ) ≤ ds.sum := by
  induction ds with
  | nil => simp
  | cons d ds ih =>
    obtain ⟨hd, hds⟩ := List.forall_mem_cons.mp h
    have hcount := ih hds
    rw [List.countP_cons, List.sum_cons, Nat.cast_add]
    split
    next hone =>
      have hunit : d = 1 := of_decide_eq_true hone
      rw [Nat.cast_one]
      linarith
    next =>
      rw [Nat.cast_zero]
      linarith

/-- Scores have a mean within the least penalty only if at most a quarter of them are unrelated,
however good the other ones are. -/
theorem countP_unrelated_of_mean_le_low {ds : List ℚ} (h : ∀ d ∈ ds, 0 ≤ d)
    (hmean : mean ds ≤ (low : ℚ)) : 4 * ds.countP (· = (unrelated : ℚ)) ≤ ds.length := by
  rw [mean_rat] at hmean
  split at hmean
  next hnil => simp [hnil]
  next hne =>
    have hlow : (low : ℚ) = 1 / 4 := rfl
    have hpos : (0 : ℚ) < ds.length := by exact_mod_cast List.length_pos_iff.mpr hne
    have hquotient : ds.sum / ds.length ≤ 1 / 4 := by
      rcases min_le_iff.mp (hlow ▸ hmean) with hleft | hright
      · exact hleft
      · norm_num at hright
    have hsum : ds.sum ≤ 1 / 4 * ds.length := (div_le_iff₀ hpos).mp hquotient
    have hcount := countP_unrelated_le_sum h
    have hall : (4 : ℚ) * ds.countP (· = (unrelated : ℚ)) ≤ ds.length := by linarith
    exact_mod_cast hall

theorem midpoint_rat (a b : ℚ) : midpoint a b = (a + b) / 2 := rfl

theorem midpoint_nonneg {a b : ℚ} (ha : 0 ≤ a) (hb : 0 ≤ b) : 0 ≤ midpoint a b := by
  rw [midpoint_rat]
  positivity

theorem midpoint_le_one {a b : ℚ} (ha : a ≤ 1) (hb : b ≤ 1) : midpoint a b ≤ 1 := by
  rw [midpoint_rat]
  linarith

theorem midpoint_eq_zero_iff {a b : ℚ} (ha : 0 ≤ a) (hb : 0 ≤ b) :
    midpoint a b = 0 ↔ a = 0 ∧ b = 0 := by
  rw [midpoint_rat, div_eq_zero_iff, or_iff_left two_ne_zero]
  exact add_eq_zero_iff_of_nonneg ha hb

end DocIndex.Scale
