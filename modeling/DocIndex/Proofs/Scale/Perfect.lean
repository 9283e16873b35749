import DocIndex.Proofs.Scale.Exact

/-!
Perfect parts make a perfect whole. With exact scores the mean of zeros is zero. With binary ones it
is zero too: a number of parts, however large, is rounded to at least one or to infinity, and zero
divided by either is zero.
-/
namespace DocIndex.Scale

structure Perfects (σ : Type) [Scale σ] : Prop where
  mean : ∀ ds : List σ, (∀ d ∈ ds, d = perfect) → Scale.mean ds = perfect
  midpoint : Scale.midpoint perfect perfect = (perfect : σ)
  low : le (perfect : σ) Scale.low = true

theorem perfects_rat : Perfects ℚ where
  mean ds hds := by
    have hzero : ∀ d ∈ ds, d = 0 := hds
    exact (mean_eq_zero_iff fun d hd => (hzero d hd).ge).mpr hzero
  midpoint := by simp [Scale.midpoint, perfect]
  low := by decide +kernel

open Float.Model UnpackedFloat

/-- Binary numbers from one on, with 53 significant bits, and infinity. -/
inductive AtLeastOne : UnpackedFloat → Prop where
  | infinity : AtLeastOne (.infinity .positive)
  | finite (m : ℕ) (e : ℤ) (hpos : 0 < m) (hm : m.log2 = 52) (he : -52 ≤ e) :
      AtLeastOne (.finite .positive m e hpos)

theorem mantissa_shiftRight (x : ExtendedMantissa) (n : ℕ) :
    (x >>> n).mantissa = x.mantissa / 2 ^ n := by
  induction n with
  | zero => exact (Nat.div_one _).symm
  | succ n ih =>
    have hstep : (x >>> (n + 1)).mantissa = (x >>> n).mantissa / 2 := rfl
    rw [hstep, ih, Nat.div_div_eq_div_mul, Nat.pow_succ]

theorem mantissa_ofMantissaAndAccuracy (m : ℕ) (a : Accuracy) :
    (ExtendedMantissa.ofMantissaAndAccuracy m a).mantissa = m := by
  rcases a with _ | (_ | _ | _) <;> rfl

theorem roundedMantissa_cases (x : ExtendedMantissa) :
    x.roundedMantissa = x.mantissa ∨ x.roundedMantissa = x.mantissa + 1 := by
  obtain ⟨m, _ | _, _ | _⟩ := x
  · exact .inl rfl
  · exact .inl rfl
  · exact (Nat.mod_two_eq_zero_or_one m).imp (congrArg (m + ·)) (congrArg (m + ·))
  · exact .inr rfl

/-- A number from one on is shifted until 53 bits are left. -/
theorem shiftToTargetExponent_eq {m : ℕ} {e : ℤ} (a : Accuracy) (hm : 52 ≤ m.log2)
    (he : 0 ≤ m.log2 + e) :
    shiftToTargetExponent Format.binary64 m e a =
      (ExtendedMantissa.ofMantissaAndAccuracy m a >>> (m.log2 - 52), m.log2 + e - 52) := by
  have htarget : Format.binary64.targetExponent (totalExponent m e) = m.log2 + e - 52 := by
    simp only [Format.targetExponent, totalExponent, Format.mantissaBits, Format.minExponent]
    omega
  have hshift : (m.log2 + e - 52 - e).toNat = m.log2 - 52 := by omega
  rw [shiftToTargetExponent, htarget, shiftToExponent]
  simp only [hshift, Prod.mk.injEq, true_and]
  omega

theorem log2_shifted {m : ℕ} (hm : 52 ≤ m.log2) : (m / 2 ^ (m.log2 - 52)).log2 = 52 := by
  have hne : m ≠ 0 := by
    rintro rfl
    simp at hm
  have hlow : 2 ^ 52 ≤ m / 2 ^ (m.log2 - 52) := by
    rw [Nat.le_div_iff_mul_le (Nat.two_pow_pos _), ← Nat.pow_add, Nat.add_sub_cancel' hm]
    exact Nat.log2_self_le hne
  have hhigh : m / 2 ^ (m.log2 - 52) < 2 ^ (52 + 1) := by
    rw [Nat.div_lt_iff_lt_mul (Nat.two_pow_pos _), ← Nat.pow_add]
    have hexp : 52 + 1 + (m.log2 - 52) = m.log2 + 1 := by omega
    rw [hexp]
    exact Nat.lt_log2_self
  exact (Nat.log2_eq_iff (by omega)).mpr ⟨hlow, hhigh⟩

/-- Rounding to 53 bits may carry into one more. -/
theorem log2_rounded {x : ExtendedMantissa} (hx : x.mantissa.log2 = 52) :
    x.roundedMantissa.log2 = 52 ∨ x.roundedMantissa.log2 = 53 := by
  have hne : x.mantissa ≠ 0 := by
    intro h
    simp [h] at hx
  obtain ⟨hlow, hhigh⟩ := (Nat.log2_eq_iff hne).mp hx
  have hrounded := roundedMantissa_cases x
  rcases Nat.lt_or_ge x.roundedMantissa (2 ^ 53) with h | h
  · exact .inl ((Nat.log2_eq_iff (by omega)).mpr ⟨by omega, by omega⟩)
  · exact .inr ((Nat.log2_eq_iff (by omega)).mpr ⟨by omega, by omega⟩)

theorem atLeastOne_roundWithAccuracy {m : ℕ} {e : ℤ} (a : Accuracy) (hm : 52 ≤ m.log2)
    (he : 0 ≤ m.log2 + e) :
    AtLeastOne (roundWithAccuracy Format.binary64 .positive m e a) := by
  let shifted := ExtendedMantissa.ofMantissaAndAccuracy m a >>> (m.log2 - 52)
  have hshifted : shifted.mantissa.log2 = 52 := by
    rw [mantissa_shiftRight, mantissa_ofMantissaAndAccuracy]
    exact log2_shifted hm
  have hrounded := log2_rounded hshifted
  have hle : 52 ≤ shifted.roundedMantissa.log2 := by omega
  have hlog := log2_shifted hle
  rw [roundWithAccuracy, shiftToTargetExponent_eq a hm he]
  simp only
  rw [shiftToTargetExponent_eq .exact hle (by omega)]
  simp only [mantissa_shiftRight, mantissa_ofMantissaAndAccuracy]
  split
  next hzero =>
    rw [hzero] at hlog
    simp at hlog
  next => exact .finite _ _ _ hlog (by omega)

/-- An exponent field between that of one and that of infinity belongs to a number from one on. -/
theorem atLeastOne_packComponents {exponent : BitVec 11} (mantissa : BitVec 52)
    (hlow : 1023 ≤ exponent.toNat) (hhigh : exponent.toNat < 2047) :
    AtLeastOne (UnpackedFloat.unpack Format.binary64
      (packComponents Format.binary64 .positive exponent mantissa)) := by
  have hsign : unpackSign (packComponents Format.binary64 .positive exponent mantissa) = 0#1 := by
    change (0#1 ++ exponent ++ mantissa).extractLsb' 63 1 = 0#1
    rw [BitVec.extractLsb'_append_eq_of_le (by decide),
      BitVec.extractLsb'_append_eq_of_le (by decide)]
    rfl
  have hones : exponent ≠ -1#11 := by
    rintro rfl
    exact absurd hhigh (by decide)
  have hzero : exponent ≠ 0#11 := by
    rintro rfl
    exact absurd hlow (by decide)
  have hmantissa : (1#1 ++ mantissa).toNat = 2 ^ 52 + mantissa.toNat := by
    rw [BitVec.toNat_append, Nat.shiftLeft_eq, BitVec.toNat_ofNat]
    exact (Nat.two_pow_add_eq_or_of_lt mantissa.isLt 1).symm
  have hlog : (1#1 ++ mantissa).toNat.log2 = 52 := by
    have hlt := mantissa.isLt
    exact (Nat.log2_eq_iff (by omega)).mpr ⟨by omega, by omega⟩
  simp only [UnpackedFloat.unpack, unpackMantissa_packComponents, unpackExponent_packComponents,
    hsign]
  rw [if_neg hones, if_neg hzero]
  refine .finite _ _ _ hlog ?_
  have hbias : ((Format.binary64.exponentBias : ℤ) + 52) = 1075 := rfl
  omega

theorem AtLeastOne.unpack_pack {x : UnpackedFloat} (h : AtLeastOne x) :
    AtLeastOne (UnpackedFloat.unpack Format.binary64 (UnpackedFloat.pack Format.binary64 x)) := by
  have hinfinity : AtLeastOne (UnpackedFloat.unpack Format.binary64
      (packedInfinity Format.binary64 .positive)) := .infinity
  cases h with
  | infinity => exact hinfinity
  | finite m e hpos hm he =>
    have hbias : e + (Format.binary64.exponentBias : ℤ) +
        (Format.binary64.mantissaBitsWithoutImplicit : ℕ) = e + 1075 := by
      change e + 1023 + 52 = e + 1075
      omega
    simp only [UnpackedFloat.pack, hbias, hm]
    split
    next => exact hinfinity
    next hexp =>
      have hfield : (BitVec.ofNat 11 (e + 1075).toNat).toNat = (e + 1075).toNat := by
        rw [BitVec.toNat_ofNat]
        exact Nat.mod_eq_of_lt (by omega)
      exact atLeastOne_packComponents _ (by omega) (by omega)

theorem log2_shiftLeft {n : ℕ} (hn : n ≠ 0) (k : ℕ) : (n <<< k).log2 = n.log2 + k := by
  rw [Nat.shiftLeft_eq]
  induction k with
  | zero => rw [Nat.pow_zero, Nat.mul_one, Nat.add_zero]
  | succ k ih =>
    have hne : n * 2 ^ k ≠ 0 := Nat.mul_ne_zero hn (Nat.two_pow_pos k).ne'
    rw [Nat.pow_succ, ← Nat.mul_assoc, Nat.mul_comm _ 2, Nat.log2_two_mul hne, ih, Nat.add_assoc]

theorem atLeastOne_ofNat {n : ℕ} (hn : 0 < n) :
    AtLeastOne (UnpackedFloat.ofNat Format.binary64 n) := by
  have hne : n ≠ 0 := hn.ne'
  have htarget : Format.binary64.targetExponent (totalExponent n 0) = n.log2 - 52 := by
    simp only [Format.targetExponent, totalExponent, Format.mantissaBits, Format.minExponent]
    omega
  have hcompare : compare (n : ℤ) 0 = .gt := compare_gt_iff_gt.mpr (by omega)
  rw [UnpackedFloat.ofNat, UnpackedFloat.ofInt, UnpackedFloat.normalize, hcompare]
  simp only [UnpackedFloat.round, htarget, decreaseExponent, Int.toNat_natCast]
  exact atLeastOne_roundWithAccuracy .exact (by rw [log2_shiftLeft hne]; omega)
    (by rw [log2_shiftLeft hne]; omega)

theorem atLeastOne_mul {m n : ℕ} {e f : ℤ} (hm : 0 < m) (hn : 0 < n)
    (hlog : 52 ≤ (m * n).log2) (he : 0 ≤ (m * n).log2 + (e + f)) :
    AtLeastOne (UnpackedFloat.mul Format.binary64 (.finite .positive m e hm)
      (.finite .positive n f hn)) :=
  atLeastOne_roundWithAccuracy .exact hlog he

theorem AtLeastOne.mul_one {x : UnpackedFloat} (h : AtLeastOne x) :
    AtLeastOne (UnpackedFloat.mul Format.binary64 x
      (.finite .positive (2 ^ 52) (-52) (Nat.two_pow_pos 52))) := by
  cases h with
  | infinity => exact .infinity
  | finite m e hpos hm he =>
    have hlog : (m * 2 ^ 52).log2 = 104 := by
      rw [← Nat.shiftLeft_eq, log2_shiftLeft hpos.ne', hm]
    exact atLeastOne_mul hpos _ (by omega) (by omega)

theorem atLeastOne_ofScientific {n : ℕ} (hn : 0 < n) :
    AtLeastOne (UnpackedFloat.ofScientific Format.binary64 n 0) := by
  have hlog : (n <<< 53 * 10 ^ 0).log2 = n.log2 + 53 := by
    rw [Nat.pow_zero, Nat.mul_one, log2_shiftLeft hn.ne']
  have hlarge : ¬ (0 : ℤ) > 2 ^ Format.binary64.exponentBits := by decide
  have hsmall : ¬ (0 : ℤ) < -((2 ^ Format.binary64.exponentBits : ℤ) + n.log2) := by
    have hbits : (2 ^ Format.binary64.exponentBits : ℤ) = 2048 := rfl
    omega
  rw [UnpackedFloat.ofScientific, dif_neg hn.ne', if_neg hlarge, if_neg hsmall,
    if_pos (Int.le_refl 0)]
  exact atLeastOne_mul (m := n <<< 53) (n := 10 ^ 0) (e := -53) _ _ (by omega) (by omega)

/-- A small number is converted as a machine integer, a large one by way of its decimal digits. -/
theorem float_ofNat (n : ℕ) : Float.ofNat n =
    if n < 2 ^ 53 then n.toUInt64.toFloat * 1.0
    else .ofModel (.pack (UnpackedFloat.ofScientific Format.binary64 n 0)) := by
  change Float.ofScientific n false 0 = _
  unfold Float.ofScientific
  split
  next h =>
    rw [if_pos h.1]
    rfl
  next h =>
    rw [if_neg fun hlt => h ⟨hlt, by decide⟩]
    rfl

theorem atLeastOne_float {n : ℕ} (hn : 0 < n) : AtLeastOne (Float.ofNat n).toModel.unpack := by
  rw [float_ofNat]
  split
  next h =>
    have hvalue : n.toUInt64.toNat = n := UInt64.toNat_ofNat_of_lt' (h.trans (by decide))
    have hinteger : AtLeastOne n.toUInt64.toFloat.toModel.unpack := by
      change AtLeastOne (UnpackedFloat.unpack Format.binary64 (UnpackedFloat.pack Format.binary64
        (UnpackedFloat.ofNat Format.binary64 n.toUInt64.toNat)))
      rw [hvalue]
      exact (atLeastOne_ofNat hn).unpack_pack
    have hone : (1.0 : Float).toModel.unpack =
        .finite .positive (2 ^ 52) (-52) (Nat.two_pow_pos 52) := rfl
    have hproduct := hinteger.mul_one.unpack_pack
    rw [← hone] at hproduct
    exact hproduct
  next => exact (atLeastOne_ofScientific hn).unpack_pack

/-- Zero divided by a number of things is zero. -/
theorem zero_div_float {n : ℕ} (hn : 0 < n) : (0.0 : Float) / Float.ofNat n = 0.0 := by
  have hzero : (0.0 : Float).toModel.unpack = .zero .positive := rfl
  have hdiv : ∀ x, AtLeastOne x →
      UnpackedFloat.div Format.binary64 (.zero .positive) x = .zero .positive := by
    rintro _ (_ | _) <;> rfl
  have hmodel : (0.0 : Float).toModel / (Float.ofNat n).toModel = (0.0 : Float).toModel := by
    change Float.Model.pack (UnpackedFloat.div Format.binary64 (0.0 : Float).toModel.unpack
      (Float.ofNat n).toModel.unpack) = _
    rw [hzero, hdiv _ (atLeastOne_float hn)]
    rfl
  exact congrArg Float.ofModel hmodel

theorem perfects_float : Perfects Float where
  mean ds hds := by
    have hsum : ∀ ds : List Float, (∀ d ∈ ds, d = 0.0) → ds.foldl (· + ·) (0.0 : Float) = 0.0 := by
      intro ds h
      induction ds with
      | nil => rfl
      | cons d ds ih =>
        obtain ⟨rfl, hds⟩ := List.forall_mem_cons.mp h
        have hadd : (0.0 : Float) + 0.0 = 0.0 := by decide +kernel
        rw [List.foldl_cons, hadd]
        exact ih hds
    have hnil : Float.ofNat 0 = 0.0 := by decide +kernel
    have hmin : min (0.0 : Float) (Float.ofNat 1) = 0.0 := by decide +kernel
    change clampedMean Float.ofNat ds = 0.0
    unfold clampedMean
    split
    next => exact hnil
    next hne =>
      have hpos : 0 < ds.length := List.length_pos_iff.mpr (by simpa using hne)
      rw [hnil, hsum ds hds, zero_div_float hpos, hmin]
  midpoint := by decide +kernel
  low := by decide +kernel

end DocIndex.Scale
