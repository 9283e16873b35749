import DocIndex.Text.Alphabet
import DocIndex.Text.Blank
import DocIndex.Text.LetterCase

/-!
Classes of characters that have no character in common.
-/
namespace DocIndex.Text

/-- A code point of one table is in no table that leaves out every code point of its runs. -/
theorem CodeRun.tableHas_eq_false {table other : List CodeRun} {n : Nat}
    (h : (table.all fun r => (List.range' r.first (r.last + 1 - r.first)).all fun k =>
      !tableHas other k) = true) (hn : tableHas table n = true) : tableHas other n = false := by
  obtain ⟨r, hr, hhas⟩ := exists_has_of_tableHas hn
  simp only [has, Bool.and_eq_true, decide_eq_true_eq] at hhas
  have hmem : n ∈ List.range' r.first (r.last + 1 - r.first) := by
    rw [List.mem_range'_1]
    omega
  have hrun := List.all_eq_true.mp h r hr
  simpa using List.all_eq_true.mp hrun n hmem

theorem isAlphabetic_of_isBlank {c : Char} (h : isBlank c = true) : isAlphabetic c = false :=
  CodeRun.tableHas_eq_false (by decide +kernel) h

theorem isNumeric_of_isBlank {c : Char} (h : isBlank c = true) : isNumeric c = false :=
  CodeRun.tableHas_eq_false (by decide +kernel) h

theorem isAlphanumeric_of_isBlank {c : Char} (h : isBlank c = true) : isAlphanumeric c = false := by
  simp [isAlphanumeric, isAlphabetic_of_isBlank h, isNumeric_of_isBlank h]

theorem isBlank_of_isAlphanumeric {c : Char} (h : isAlphanumeric c = true) : isBlank c = false := by
  cases hblank : isBlank c with
  | false => rfl
  | true => rw [← h, isAlphanumeric_of_isBlank hblank]

theorem isNumeric_of_isDigit {c : Char} (h : c.isDigit = true) : isNumeric c = true := by
  have hdigits : ∀ n ∈ List.range' 48 10, CodeRun.tableHas numericTable n = true := by
    decide +kernel
  refine hdigits c.toNat (List.mem_range'_1.mpr ?_)
  simp only [Char.isDigit, Bool.and_eq_true, decide_eq_true_eq] at h
  have hlow : 48 ≤ c.toNat := h.1
  have hhigh : c.toNat ≤ 57 := h.2
  omega

theorem isBlank_of_isDigit {c : Char} (h : c.isDigit = true) : isBlank c = false :=
  isBlank_of_isAlphanumeric (by simp [isAlphanumeric, isNumeric_of_isDigit h])

theorem mem_range_of_isLower {c : Char} (h : c.isLower = true) : c.toNat ∈ List.range' 97 26 := by
  have h := Bool.and_eq_true_iff.mp h
  have hlow : 97 ≤ c.toNat := of_decide_eq_true h.1
  have hhigh : c.toNat ≤ 122 := of_decide_eq_true h.2
  rw [List.mem_range'_1]
  omega

theorem mem_range_of_isUpper {c : Char} (h : c.isUpper = true) : c.toNat ∈ List.range' 65 26 := by
  have hrange : 65 ≤ c.toNat ∧ c.toNat ≤ 90 := of_decide_eq_true h
  rw [List.mem_range'_1]
  omega

theorem isAlphabetic_of_isAlpha {c : Char} (h : c.isAlpha = true) : isAlphabetic c = true := by
  have hlower : ∀ n ∈ List.range' 97 26, CodeRun.tableHas alphabeticTable n = true := by
    decide +kernel
  have hupper : ∀ n ∈ List.range' 65 26, CodeRun.tableHas alphabeticTable n = true := by
    decide +kernel
  rcases Bool.or_eq_true_iff.mp h with h | h
  · exact hupper c.toNat (mem_range_of_isUpper h)
  · exact hlower c.toNat (mem_range_of_isLower h)

theorem isAlphanumeric_of_isAlphanum {c : Char} (h : c.isAlphanum = true) :
    isAlphanumeric c = true := by
  rcases Bool.or_eq_true_iff.mp h with h | h
  · exact Bool.or_eq_true_iff.mpr (.inl (isAlphabetic_of_isAlpha h))
  · exact Bool.or_eq_true_iff.mpr (.inr (isNumeric_of_isDigit h))

theorem isAlpha_of_isLower {c : Char} (h : c.isLower = true) : c.isAlpha = true :=
  Bool.or_eq_true_iff.mpr (.inr h)

theorem isBlank_of_isAlpha {c : Char} (h : c.isAlpha = true) : isBlank c = false := by
  cases hblank : isBlank c with
  | false => rfl
  | true =>
    have halpha := isAlphabetic_of_isAlpha h
    rw [isAlphabetic_of_isBlank hblank] at halpha
    cases halpha

theorem isUppercase_of_isLower {c : Char} (h : c.isLower = true) : isUppercase c = false := by
  have hlower : ∀ n ∈ List.range' 97 26, CodeRun.tableHas uppercaseTable n = false := by
    decide +kernel
  exact hlower c.toNat (mem_range_of_isLower h)

end DocIndex.Text
