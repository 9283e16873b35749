import DocIndex.Scale
import Mathlib

/-!
The order of binary scores is that of keys, except that what is not a number is in no order with
anything. So scores within the least penalty can be sorted.
-/
namespace DocIndex.Scale

open Float.Model

/-- What binary numbers are compared by: the sign and whether the number is infinite, then the
exponent, then the mantissa. -/
def floatKey : UnpackedFloat → ℤ ×ₗ ℤ ×ₗ ℤ
  | .notANumber => toLex (0, toLex (0, 0))
  | .zero _ => toLex (0, toLex (0, 0))
  | .infinity s => toLex (s.apply 2, toLex (0, 0))
  | .finite s mantissa exponent _ => toLex (s.apply 1, toLex (s.apply exponent, s.apply mantissa))

theorem isLE_compare_sign (s t : UnpackedFloat.Sign) :
    (compare s t).isLE = true ↔ s.apply 2 ≤ t.apply 2 := by
  cases s <;> cases t <;> decide

theorem isLE_compare_then (e f : ℤ) (m n : ℕ) :
    ((compare e f).then (compare m n)).isLE = true ↔ e < f ∨ e = f ∧ m ≤ n := by
  rw [Ordering.isLE_then_iff_or, compare_lt_iff_lt, compare_eq_iff_eq, Std.isLE_compare]

theorem isGE_compare_then (e f : ℤ) (m n : ℕ) :
    ((compare e f).then (compare m n)).isGE = true ↔ f < e ∨ e = f ∧ n ≤ m := by
  rw [← Ordering.isLE_swap, Ordering.swap_then, Ordering.isLE_then_iff_or, Ordering.swap_eq_lt,
    compare_gt_iff_gt, Ordering.swap_eq_eq, compare_eq_iff_eq, Ordering.isLE_swap,
    Std.isGE_compare]

theorem unpacked_le_iff (x y : UnpackedFloat) :
    x.le y = true ↔ x ≠ .notANumber ∧ y ≠ .notANumber ∧ floatKey x ≤ floatKey y := by
  rcases x with (_ | _) | _ | _ | ⟨_ | _, m, e, hm⟩ <;>
    rcases y with (_ | _) | _ | _ | ⟨_ | _, n, f, hn⟩ <;>
    simp [UnpackedFloat.le, UnpackedFloat.compare, floatKey, UnpackedFloat.Sign.apply,
      isLE_compare_sign, isLE_compare_then, isGE_compare_then, Prod.Lex.toLex_le_toLex]

/-- Scores can be sorted: the order is transitive, and scores within the least penalty are in order
with each other. -/
structure Sorts (σ : Type) [Scale σ] : Prop where
  trans : ∀ x y z : σ, le x y = true → le y z = true → le x z = true
  total : ∀ x y : σ, le x low = true → le y low = true → (le x y || le y x) = true

theorem le_float_iff (x y : Float) :
    le x y = true ↔ x.toModel.unpack ≠ .notANumber ∧ y.toModel.unpack ≠ .notANumber ∧
      floatKey x.toModel.unpack ≤ floatKey y.toModel.unpack := by
  rw [← unpacked_le_iff]
  show decide (x ≤ y) = true ↔ _
  rw [decide_eq_true_iff]
  exact decide_eq_true_iff

theorem sorts_float : Sorts Float where
  trans x y z hxy hyz := by
    rw [le_float_iff] at hxy hyz ⊢
    exact ⟨hxy.1, hyz.2.1, hxy.2.2.trans hyz.2.2⟩
  total x y hx hy := by
    rw [le_float_iff] at hx hy
    rw [Bool.or_eq_true, le_float_iff, le_float_iff]
    rcases le_total (floatKey x.toModel.unpack) (floatKey y.toModel.unpack) with h | h
    · exact .inl ⟨hx.1, hy.1, h⟩
    · exact .inr ⟨hy.1, hx.1, h⟩

end DocIndex.Scale
