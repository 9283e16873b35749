import DocIndex.Proofs.Text.Alphabet
import DocIndex.Proofs.Text.Trim

/-!
Lowercasing does not see the case of ASCII letters: a capital and its small letter have the same
lowercase, and both are cased letters to a sigma that stands beside them.
-/
namespace DocIndex.Text

theorem lowercase_ne_nil {t : Text} (h : t ≠ []) : lowercase t ≠ [] := by
  cases t with
  | nil => exact absurd rfl h
  | cons c t =>
    intro heq
    rw [lowercase, lowerAfter] at heq
    have hfirst := (List.append_eq_nil_iff.mp heq).1
    unfold lowerChar at hfirst
    split at hfirst
    · cases hfirst
    · split at hfirst <;> cases hfirst

/-- What each ASCII capital has in common with its small letter does not depend on the case of ASCII
letters. -/
theorem apply_toLower {α : Type} {f : Char → α}
    (h : ∀ n ∈ List.range' 65 26, f (Char.ofNat n).toLower = f (Char.ofNat n)) (c : Char) :
    f c.toLower = f c := by
  by_cases hc : c.val ≥ 'A'.val ∧ c.val ≤ 'Z'.val
  · have hupper : c.isUpper = true := decide_eq_true hc
    have hletter := h c.toNat (mem_range_of_isUpper hupper)
    rwa [Char.ofNat_toNat] at hletter
  · have hsame : c.toLower = c := dif_neg hc
    rw [hsame]

theorem isBlank_toLower (c : Char) : isBlank c.toLower = isBlank c :=
  apply_toLower (by decide +kernel) c

theorem isCased_toLower (c : Char) : isCased c.toLower = isCased c :=
  apply_toLower (by decide +kernel) c

theorem isCaseIgnorable_toLower (c : Char) : isCaseIgnorable c.toLower = isCaseIgnorable c :=
  apply_toLower (by decide +kernel) c

theorem lowerChar_toLower (c : Char) : lowerChar c.toLower = lowerChar c :=
  apply_toLower (by decide +kernel) c

/-- A character that is no ASCII letter is told from all others whatever their case. -/
theorem toLower_eq_iff {d : Char}
    (h : ∀ n ∈ List.range' 65 26, ((Char.ofNat n).toLower = d) = (Char.ofNat n = d)) (c : Char) :
    c.toLower = d ↔ c = d :=
  Iff.of_eq (apply_toLower (f := (· = d)) h c)

theorem meetsCased_map_toLower (t : Text) : meetsCased (t.map Char.toLower) = meetsCased t := by
  rw [meetsCased, meetsCased, dropWhile_map isCaseIgnorable_toLower]
  cases t.dropWhile isCaseIgnorable with
  | nil => rfl
  | cons c u => exact isCased_toLower c

theorem lowerAfter_map_toLower (before t : Text) :
    lowerAfter (before.map Char.toLower) (t.map Char.toLower) = lowerAfter before t := by
  induction t generalizing before with
  | nil => rfl
  | cons c t ih =>
    have hrest := ih (c :: before)
    have hsigma : c.toLower = 'Σ' ↔ c = 'Σ' := toLower_eq_iff (by decide +kernel) c
    rw [List.map_cons] at hrest
    simp only [List.map_cons, lowerAfter, hsigma, meetsCased_map_toLower, lowerChar_toLower, hrest]

theorem lowercase_map_toLower (t : Text) : lowercase (t.map Char.toLower) = lowercase t :=
  lowerAfter_map_toLower [] t

end DocIndex.Text
