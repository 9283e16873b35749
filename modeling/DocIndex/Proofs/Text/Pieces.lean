import DocIndex.Text.Basic
import Mathlib.Data.List.Basic

/-!
Texts put together from pieces with a mark between neighbours: as long as no piece holds the mark,
the text determines its pieces.
-/
namespace DocIndex.Text

theorem not_mem_of_mem_splitOn {c : Char} {t piece : Text} (h : piece ∈ t.splitOn c) :
    c ∉ piece := by
  induction t generalizing piece with
  | nil =>
    obtain rfl : piece = [] := by simpa [List.splitOn_eq_singleton] using h
    exact List.not_mem_nil
  | cons d t ih =>
    rw [List.splitOn_cons_eq_if_modifyHead] at h
    split at h
    next =>
      rcases List.mem_cons.mp h with rfl | h
      · exact List.not_mem_nil
      · exact ih h
    next hd =>
      cases ht : t.splitOn c with
      | nil => exact absurd ht (List.splitOn_ne_nil c t)
      | cons first rest =>
        rw [ht] at ih
        rw [ht, List.modifyHead_cons] at h
        rcases List.mem_cons.mp h with rfl | h
        · have hfirst : c ∉ first := ih List.mem_cons_self
          have hcd : c ≠ d := fun hcd => hd (beq_iff_eq.mpr hcd.symm)
          simp [hcd, hfirst]
        · exact ih (List.mem_cons_of_mem _ h)

/-- Without the mark in it, what stands at the start of a text belongs to the first piece. -/
theorem splitOn_append_of_not_mem {c : Char} {t : Text} (h : c ∉ t) (u : Text) :
    (t ++ u).splitOn c = (u.splitOn c).modifyHead (t ++ ·) := by
  induction t with
  | nil =>
    rw [List.nil_append]
    cases u.splitOn c <;> rfl
  | cons d t ih =>
    obtain ⟨hd, ht⟩ := not_or.mp (mt List.mem_cons.mpr h)
    have hdc : ¬ (d == c) = true := fun hdc => hd (beq_iff_eq.mp hdc).symm
    rw [List.cons_append, List.splitOn_cons_eq_if_modifyHead, if_neg hdc, ih ht,
      List.modifyHead_modifyHead]
    rfl

theorem afterLast_of_not_mem {c : Char} {t : Text} (h : c ∉ t) : afterLast c t = t := by
  rw [afterLast, List.splitOn_eq_singleton h]
  rfl

/-- A text determines what stands before the first mark in it and what stands after it. -/
theorem append_cons_inj {c : Char} {t t' u u' : Text} (ht : c ∉ t) (ht' : c ∉ t') :
    t ++ c :: u = t' ++ c :: u' ↔ t = t' ∧ u = u' := by
  constructor
  · intro h
    have hpieces := congrArg (List.splitOn c) h
    rw [List.splitOn_append_cons_self_of_not_mem ht,
      List.splitOn_append_cons_self_of_not_mem ht'] at hpieces
    obtain rfl := (List.cons.inj hpieces).1
    exact ⟨rfl, (List.cons.inj (List.append_cancel_left h)).2⟩
  · rintro ⟨rfl, rfl⟩
    rfl

theorem intercalate_triple (c : Char) (t u w : Text) :
    [c].intercalate [t, u, w] = t ++ c :: u ++ c :: w := by
  simp [List.intercalate, List.intersperse]

/-- A text that goes up to a mark ends with the first piece or goes on after it. -/
theorem append_singleton_prefix_append_cons_iff {c : Char} {p u t : Text} (h : c ∉ u) :
    p ++ [c] <+: u ++ c :: t ↔ p = u ∨ ∃ q, p = u ++ c :: q ∧ q ++ [c] <+: t := by
  induction u generalizing p with
  | nil =>
    cases p with
    | nil => simp
    | cons d p => simp [List.cons_prefix_cons]
  | cons d u ih =>
    obtain ⟨hd, hu⟩ := not_or.mp (mt List.mem_cons.mpr h)
    cases p with
    | nil => simp [hd]
    | cons e p =>
      simp only [List.cons_append, List.cons_prefix_cons, List.cons.injEq, ih hu, and_or_left,
        and_assoc, exists_and_left]

theorem not_mem_ofNat {c : Char} (hc : c.isDigit = false) (n : Nat) : c ∉ ofNat n := by
  intro h
  have hdigit := Nat.isDigit_of_mem_toDigits (by decide) (by decide) h
  rw [hc] at hdigit
  cases hdigit

theorem ofNat_injective : Function.Injective ofNat := by
  intro m n h
  have hread := congrArg (fun t => Nat.ofDigitChars 10 t 0) h
  simpa only [ofNat, Nat.ofDigitChars_ten_toDigits] using hread

end DocIndex.Text
