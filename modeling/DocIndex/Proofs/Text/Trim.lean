import DocIndex.Text.Blank
import Mathlib.Data.List.DropRight

/-!
Trimming takes characters away at both ends of a text and finds no more of them there, so it takes
away what is put around a text.
-/
namespace DocIndex.Text

theorem trimWhile_eq (p : Char → Bool) (t : Text) :
    trimWhile p t = (t.dropWhile p).rdropWhile p := rfl

theorem exists_append_trimWhile (p : Char → Bool) (t : Text) :
    ∃ before after, t = before ++ (trimWhile p t ++ after) ∧ (∀ c ∈ before, p c = true) ∧
      ∀ c ∈ after, p c = true := by
  refine ⟨t.takeWhile p, (t.dropWhile p).rtakeWhile p, ?_, fun c hc => ?_, fun c hc => ?_⟩
  · rw [trimWhile_eq, List.rdropWhile_append_rtakeWhile, List.takeWhile_append_dropWhile]
  · exact List.mem_takeWhile_imp hc
  · exact List.mem_rtakeWhile_imp hc

theorem mem_dropWhile_of_not {p : Char → Bool} {c : Char} {t : Text} (hc : c ∈ t)
    (hp : p c = false) : c ∈ t.dropWhile p := by
  rw [← List.takeWhile_append_dropWhile (p := p) (l := t), List.mem_append] at hc
  rcases hc with hc | hc
  · rw [List.mem_takeWhile_imp hc] at hp
    cases hp
  · exact hc

theorem mem_dropEndWhile_of_not {p : Char → Bool} {c : Char} {t : Text} (hc : c ∈ t)
    (hp : p c = false) : c ∈ dropEndWhile p t := by
  rw [dropEndWhile, List.mem_reverse]
  exact mem_dropWhile_of_not (List.mem_reverse.mpr hc) hp

/-- Characters that are replaced by ones dropped alike are dropped as before. -/
theorem dropWhile_map {p : Char → Bool} {f : Char → Char} (h : ∀ c, p (f c) = p c) (t : Text) :
    (t.map f).dropWhile p = (t.dropWhile p).map f := by
  have hcomp : p ∘ f = p := funext h
  rw [List.dropWhile_map, hcomp]

theorem dropEndWhile_map {p : Char → Bool} {f : Char → Char} (h : ∀ c, p (f c) = p c) (t : Text) :
    dropEndWhile p (t.map f) = (dropEndWhile p t).map f := by
  rw [dropEndWhile, ← List.map_reverse, dropWhile_map h, ← List.map_reverse, dropEndWhile]

theorem trimWhile_map {p : Char → Bool} {f : Char → Char} (h : ∀ c, p (f c) = p c) (t : Text) :
    trimWhile p (t.map f) = (trimWhile p t).map f := by
  rw [trimWhile, dropWhile_map h, dropEndWhile_map h, trimWhile]

theorem dropEndWhile_append {p : Char → Bool} {after : Text} (h : ∀ c ∈ after, p c = true)
    (t : Text) : dropEndWhile p (t ++ after) = dropEndWhile p t := by
  have hrev : ∀ c ∈ after.reverse, p c = true := fun c hc => h c (List.mem_reverse.mp hc)
  rw [dropEndWhile, List.reverse_append, List.dropWhile_append_of_pos hrev, dropEndWhile]

/-- What is dropped at the start and what is dropped at the end can be put there without making a
difference, also when nothing is left between them. -/
theorem dropEndWhile_dropWhile_append {p q : Char → Bool} {before after : Text}
    (hb : ∀ c ∈ before, p c = true) (ha : ∀ c ∈ after, q c = true) (t : Text) :
    dropEndWhile q ((before ++ (t ++ after)).dropWhile p) = dropEndWhile q (t.dropWhile p) := by
  rw [List.dropWhile_append_of_pos hb, List.dropWhile_append]
  split
  next hnil =>
    have hafter : ∀ c ∈ after.dropWhile p, q c = true :=
      fun c hc => ha c ((List.dropWhile_sublist p).subset hc)
    rw [List.isEmpty_iff.mp hnil]
    exact dropEndWhile_append hafter []
  next => exact dropEndWhile_append ha _

/-- A text with nothing to be trimmed at its ends stays as it is. -/
theorem trimWhile_eq_self_of_ends {p : Char → Bool} {t : Text}
    (hfirst : ∀ c ∈ t.head?, p c = false) (hlast : ∀ c ∈ t.getLast?, p c = false) :
    trimWhile p t = t := by
  cases t with
  | nil => rfl
  | cons c u =>
    have hc : p c = false := hfirst c rfl
    rw [trimWhile_eq, List.dropWhile_cons_of_neg (by simp [hc]), List.rdropWhile_eq_self_iff]
    intro hne
    simp [hlast _ (List.getLast_mem_getLast? hne)]

/-- A text that holds nothing to be trimmed stays as it is. -/
theorem trimWhile_eq_self {p : Char → Bool} {t : Text} (h : ∀ c ∈ t, p c = false) :
    trimWhile p t = t :=
  trimWhile_eq_self_of_ends (fun c hc => h c (List.mem_of_mem_head? hc))
    fun c hc => h c (List.mem_of_mem_getLast? hc)

/-- Trimming takes away what is put around a text that holds nothing to be trimmed. -/
theorem trimWhile_append_append {p : Char → Bool} {before t after : Text}
    (hb : ∀ c ∈ before, p c = true) (ht : ∀ c ∈ t, p c = false) (ha : ∀ c ∈ after, p c = true) :
    trimWhile p (before ++ (t ++ after)) = t :=
  (dropEndWhile_dropWhile_append hb ha t).trans (trimWhile_eq_self ht)

/-- What stands before a character that is not trimmed away stays at the start of the text. -/
theorem prefix_rdropWhile {p : Char → Bool} {t u : Text} {c : Char} (hc : p c = false) :
    t <+: (t ++ c :: u).rdropWhile p := by
  have hne : (u.reverse ++ [c]).dropWhile p ≠ [] := by
    rw [Ne, List.dropWhile_eq_nil_iff]
    intro h
    rw [h c (by simp)] at hc
    cases hc
  have hrev : (t ++ c :: u).reverse = (u.reverse ++ [c]) ++ t.reverse := by simp
  rw [List.rdropWhile, hrev, List.dropWhile_append, if_neg (by simpa using hne),
    List.reverse_append, List.reverse_reverse]
  exact List.prefix_append _ _

/-- A trimmed text starts with none of the characters that are trimmed away. -/
theorem not_of_trimWhile_eq_cons {p : Char → Bool} {t u : Text} {c : Char}
    (h : trimWhile p t = c :: u) : p c = false := by
  have hprefix : c :: u <+: t.dropWhile p := h ▸ List.rdropWhile_prefix p _
  obtain ⟨after, hafter⟩ := hprefix
  have hnot := List.head?_dropWhile_not p t
  rw [← hafter] at hnot
  simpa using hnot

theorem trimWhile_trimWhile (p : Char → Bool) (t : Text) :
    trimWhile p (trimWhile p t) = trimWhile p t := by
  have hstart : (trimWhile p t).dropWhile p = trimWhile p t := by
    cases h : trimWhile p t with
    | nil => rfl
    | cons c u => simp [not_of_trimWhile_eq_cons h]
  rw [trimWhile_eq p (trimWhile p t), hstart]
  exact List.rdropWhile_idempotent p (t.dropWhile p)

end DocIndex.Text
