import DocIndex.Proofs.Text.Alphabet
import DocIndex.Text.Decimal
import Mathlib.Data.List.Induction

/-!
Decimal numerals, as rules of positional notation. The numbers that are read from texts are those
that numerals write, and the digits of a number are a numeral for it.
-/
namespace DocIndex.Text

/-- ASCII digits that write a number: another digit at the end makes ten times as much and the value
of the digit. -/
inductive Digits : Text → Nat → Prop where
  | one {d : Nat} (h : d < 10) : Digits [Nat.digitChar d] d
  | concat {t : Text} {n d : Nat} (ht : Digits t n) (h : d < 10) :
      Digits (t ++ [Nat.digitChar d]) (10 * n + d)

/-- A text that writes a number in decimal: digits, or a plus sign and digits. -/
inductive Numeral : Text → Nat → Prop where
  | plain {t : Text} {n : Nat} (h : Digits t n) : Numeral t n
  | signed {t : Text} {n : Nat} (h : Digits t n) : Numeral ('+' :: t) n

theorem exists_digitChar {c : Char} (h : c.isDigit = true) :
    ∃ d, d < 10 ∧ c = Nat.digitChar d ∧ c.toNat - 48 = d := by
  obtain ⟨hlow, hhigh⟩ : 48 ≤ c.toNat ∧ c.toNat ≤ 57 := Char.isDigit_iff_toNat.mp h
  have hd : c.toNat - 48 < 10 := by omega
  refine ⟨c.toNat - 48, hd, Char.toNat_inj.mp ?_, rfl⟩
  rw [Nat.toNat_digitChar_of_lt_ten hd]
  omega

theorem Digits.isDigit {t : Text} {n : Nat} (h : Digits t n) : ∀ c ∈ t, c.isDigit = true := by
  have hdigit : ∀ {d : Nat}, d < 10 → (Nat.digitChar d).isDigit = true := fun hd => by
    rw [Nat.isDigit_digitChar, decide_eq_true hd]
  induction h with
  | one h => exact List.forall_mem_singleton.mpr (hdigit h)
  | concat _ h ih =>
    exact List.forall_mem_append.mpr ⟨ih, List.forall_mem_singleton.mpr (hdigit h)⟩

theorem ofDigitChars_concat (t : Text) (c : Char) :
    Nat.ofDigitChars 10 (t ++ [c]) 0 = 10 * Nat.ofDigitChars 10 t 0 + (c.toNat - 48) := by
  rw [Nat.ofDigitChars_append]
  rfl

theorem digits_iff {t : Text} {n : Nat} :
    Digits t n ↔ t ≠ [] ∧ (∀ c ∈ t, c.isDigit = true) ∧ Nat.ofDigitChars 10 t 0 = n := by
  constructor
  · intro h
    refine ⟨?_, h.isDigit, ?_⟩
    · cases h <;> simp
    · induction h with
      | @one d h =>
        have hsingle := ofDigitChars_concat [] (Nat.digitChar d)
        rw [Nat.toNat_digitChar_sub_48_of_lt_ten h] at hsingle
        simpa using hsingle
      | concat _ h ih => rw [ofDigitChars_concat, ih, Nat.toNat_digitChar_sub_48_of_lt_ten h]
  · rintro ⟨hne, hdigit, rfl⟩
    induction t using List.reverseRecOn with
    | nil => exact absurd rfl hne
    | append_singleton t c ih =>
      obtain ⟨d, hd, hc, hvalue⟩ := exists_digitChar (hdigit c List.mem_concat_self)
      rw [ofDigitChars_concat, hvalue, hc]
      by_cases ht : t = []
      · subst ht
        simpa using Digits.one hd
      · exact .concat (ih ht fun e he => hdigit e (List.mem_append_left _ he)) hd

/-- A numeral holds digits and plus signs only. -/
theorem Numeral.isDigit_or_eq {t : Text} {n : Nat} (h : Numeral t n) :
    ∀ c ∈ t, c.isDigit = true ∨ c = '+' := by
  cases h with
  | plain h => exact fun c hc => .inl (h.isDigit c hc)
  | signed h =>
    intro c hc
    rcases List.mem_cons.mp hc with rfl | hc
    · exact .inr rfl
    · exact .inl (h.isDigit c hc)

theorem Numeral.isBlank {t : Text} {n : Nat} (h : Numeral t n) : ∀ c ∈ t, isBlank c = false := by
  intro c hc
  rcases h.isDigit_or_eq c hc with hdigit | rfl
  · exact isBlank_of_isDigit hdigit
  · decide

theorem Numeral.dot_not_mem {t : Text} {n : Nat} (h : Numeral t n) : '.' ∉ t := by
  intro hdot
  rcases h.isDigit_or_eq '.' hdot with hc | hc <;> exact absurd hc (by decide)

/-- What is read below a bound is what numerals write below it. -/
theorem natBelow?_eq_some_iff {bound n : Nat} {t : Text} :
    natBelow? bound t = some n ↔ Numeral t n ∧ n < bound := by
  have hplus : ∀ {u : Text} {m : Nat}, ¬ Digits ('+' :: u) m := by
    intro u m h
    exact absurd (h.isDigit '+' List.mem_cons_self) (by decide)
  have hread : ∀ u : Text, (if !u.isEmpty && u.all Char.isDigit then
      (if Nat.ofDigitChars 10 u 0 < bound then some (Nat.ofDigitChars 10 u 0) else none)
      else none) = some n ↔ Digits u n ∧ n < bound := by
    intro u
    rw [digits_iff]
    grind
  unfold natBelow?
  split
  next u =>
    refine (hread u).trans (and_congr_left fun _ => ⟨.signed, fun h => ?_⟩)
    cases h with
    | plain h => exact absurd h hplus
    | signed h => exact h
  next hne =>
    refine (hread t).trans (and_congr_left fun _ => ⟨.plain, fun h => ?_⟩)
    cases h with
    | plain h => exact h
    | signed _ => exact absurd rfl (hne _)

/-- The digits of a number write it. -/
theorem numeral_ofNat (n : Nat) : Numeral (ofNat n) n :=
  .plain (digits_iff.mpr ⟨Nat.toDigits_ne_nil,
    fun _ hc => Nat.isDigit_of_mem_toDigits (by decide) (by decide) hc,
    Nat.ofDigitChars_ten_toDigits⟩)

end DocIndex.Text
