import DocIndex.Proofs.Scale
import DocIndex.Proofs.Scale.Perfect

/-!
Scores without a sign. What the rules make of scores has no minus sign as long as the scores they
start from have none, so no score is a negative zero, and binary scores that are in order both ways
are the same number.
-/
namespace DocIndex.Scale

/-- A property that the fixed scores have and that means and midpoints keep. -/
structure Closed {σ : Type} [Scale σ] (P : σ → Prop) : Prop where
  perfect : P perfect
  slight : P slight
  low : P low
  medium : P medium
  unrelated : P unrelated
  mean : ∀ ds : List σ, (∀ d ∈ ds, P d) → P (mean ds)
  midpoint : ∀ a b : σ, P a → P b → P (midpoint a b)

open Float.Model UnpackedFloat

inductive Unsigned : UnpackedFloat → Prop where
  | notANumber : Unsigned .notANumber
  | zero : Unsigned (.zero .positive)
  | infinity : Unsigned (.infinity .positive)
  | finite (m : ℕ) (e : ℤ) (hpos : 0 < m) : Unsigned (.finite .positive m e hpos)

theorem AtLeastOne.unsigned {x : UnpackedFloat} (h : AtLeastOne x) : Unsigned x := by
  cases h with
  | infinity => exact .infinity
  | finite m e hpos _ _ => exact .finite m e hpos

/-- The sign bit alone decides the sign. -/
theorem unsigned_packComponents (exponent : BitVec 11) (mantissa : BitVec 52) :
    Unsigned (UnpackedFloat.unpack Format.binary64
      (packComponents Format.binary64 .positive exponent mantissa)) := by
  have hsign : Sign.ofBitVec (unpackSign (packComponents Format.binary64 .positive exponent
      mantissa)) = .positive := by
    rw [unpackSign_packComponents]
    rfl
  simp only [UnpackedFloat.unpack, unpackMantissa_packComponents, unpackExponent_packComponents,
    hsign]
  split
  · split
    · exact .infinity
    · exact .notANumber
  · split
    · split
      · exact .zero
      · exact .finite _ _ _
    · exact .finite _ _ _

theorem Unsigned.unpack_pack {x : UnpackedFloat} (h : Unsigned x) :
    Unsigned (UnpackedFloat.unpack Format.binary64 (UnpackedFloat.pack Format.binary64 x)) := by
  cases h with
  | notANumber => exact .notANumber
  | zero => exact .zero
  | infinity => exact .infinity
  | finite m e hpos =>
    simp only [UnpackedFloat.pack]
    split
    · exact .infinity
    · split
      · exact unsigned_packComponents _ _
      · exact unsigned_packComponents _ _

theorem unsigned_roundWithAccuracy (m : ℕ) (e : ℤ) (a : Accuracy) :
    Unsigned (roundWithAccuracy Format.binary64 .positive m e a) := by
  simp only [roundWithAccuracy]
  split
  · exact .zero
  · exact .finite _ _ _

theorem Unsigned.add {x y : UnpackedFloat} (hx : Unsigned x) (hy : Unsigned y) :
    Unsigned (UnpackedFloat.add Format.binary64 x y) := by
  cases hx with
  | notANumber => exact .notANumber
  | zero => cases hy <;> constructor
  | infinity => cases hy <;> constructor
  | finite m e hm =>
    cases hy with
    | notANumber => exact .notANumber
    | zero => exact .finite m e hm
    | infinity => exact .infinity
    | finite n f hn =>
      simp only [UnpackedFloat.add, UnpackedFloat.normalize, Sign.apply, decreaseExponent]
      split
      next hlt =>
        exact absurd (compare_lt_iff_lt.mp hlt) (not_lt.mpr (by positivity))
      next => exact .zero
      next => exact unsigned_roundWithAccuracy _ _ _

theorem Unsigned.div {x y : UnpackedFloat} (hx : Unsigned x) (hy : Unsigned y) :
    Unsigned (UnpackedFloat.div Format.binary64 x y) := by
  cases hx with
  | notANumber => exact .notANumber
  | zero => cases hy <;> constructor
  | infinity => cases hy <;> constructor
  | finite m e hm =>
    cases hy with
    | notANumber => exact .notANumber
    | zero => exact .infinity
    | infinity => exact .zero
    | finite n f hn => exact unsigned_roundWithAccuracy _ _ _

def UnsignedFloat (x : Float) : Prop := Unsigned x.toModel.unpack

theorem UnsignedFloat.add {x y : Float} (hx : UnsignedFloat x) (hy : UnsignedFloat y) :
    UnsignedFloat (x + y) := (Unsigned.add hx hy).unpack_pack

theorem UnsignedFloat.div {x y : Float} (hx : UnsignedFloat x) (hy : UnsignedFloat y) :
    UnsignedFloat (x / y) := (Unsigned.div hx hy).unpack_pack

theorem UnsignedFloat.min {x y : Float} (hx : UnsignedFloat x) (hy : UnsignedFloat y) :
    UnsignedFloat (min x y) := by
  change UnsignedFloat (if x ≤ y then x else y)
  split
  · exact hx
  · exact hy

theorem unsignedFloat_foldl_add {x : Float} (hx : UnsignedFloat x) {ds : List Float}
    (hds : ∀ d ∈ ds, UnsignedFloat d) : UnsignedFloat (ds.foldl (· + ·) x) := by
  induction ds generalizing x with
  | nil => exact hx
  | cons d ds ih =>
    obtain ⟨hd, hds⟩ := List.forall_mem_cons.mp hds
    exact ih (hx.add hd) hds

theorem closed_unsignedFloat : Closed UnsignedFloat where
  perfect := .zero
  slight := .finite _ _ _
  low := .finite _ _ _
  medium := .finite _ _ _
  unrelated := .finite _ _ _
  mean ds hds := by
    have hzero : UnsignedFloat (Float.ofNat 0) := .zero
    have hone : UnsignedFloat (Float.ofNat 1) := .finite _ _ _
    change UnsignedFloat (clampedMean Float.ofNat ds)
    unfold clampedMean
    split
    next => exact hzero
    next hne =>
      have hpos : 0 < ds.length := List.length_pos_iff.mpr (by simpa using hne)
      have hcount : UnsignedFloat (Float.ofNat ds.length) := (atLeastOne_float hpos).unsigned
      exact ((unsignedFloat_foldl_add hzero hds).div hcount).min hone
  midpoint a b ha hb := by
    have htwo : UnsignedFloat 2.0 := .finite _ _ _
    exact (ha.add hb).div htwo

/-- Without a sign the key of a number tells the number. -/
theorem Unsigned.eq_of_floatKey {x y : UnpackedFloat} (hx : Unsigned x) (hy : Unsigned y)
    (hx' : x ≠ .notANumber) (hy' : y ≠ .notANumber) (h : floatKey x = floatKey y) : x = y := by
  cases hx <;> cases hy <;> simp_all [floatKey, Sign.apply]

theorem float_eq_of_unpack {x y : Float} (h : x.toModel.unpack = y.toModel.unpack) : x = y := by
  obtain ⟨⟨⟨x⟩, hx⟩⟩ := x
  obtain ⟨⟨⟨y⟩, hy⟩⟩ := y
  have hbits : x = y := (unpack_inj_of_valid hx hy).mp h
  subst hbits
  rfl

/-- Unsigned scores that are in order both ways are equal. -/
theorem UnsignedFloat.antisymm {x y : Float} (hx : UnsignedFloat x) (hy : UnsignedFloat y)
    (hxy : le x y = true) (hyx : le y x = true) : x = y := by
  rw [le_float_iff] at hxy hyx
  obtain ⟨hx', hy', hle⟩ := hxy
  exact float_eq_of_unpack (hx.eq_of_floatKey hy hx' hy' (hle.antisymm hyx.2.2))

end DocIndex.Scale
