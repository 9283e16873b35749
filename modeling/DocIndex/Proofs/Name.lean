import DocIndex.Name
import DocIndex.Proofs.Text.Alphabet
import DocIndex.Proofs.Text.Pieces
import DocIndex.Proofs.Text.Trim

/-!
Names are read back from their dotted form as long as the identifier has no dot in it. Of an
identifier with dots, only what follows the last of them is read as one. Where the dotted form
leaves out an empty part, the dot is lost with it.
-/
namespace DocIndex.Name

def ofDotted? (t : Text) : Option Name :=
  (t.splitOn '.').getLast?.map fun ident => ⟨Text.join ['.'] (t.splitOn '.').dropLast, ident⟩

/-- Every text has a last piece. -/
theorem ofDotted?_eq_some (t : Text) : ofDotted? t = some (ofDotted t) := by
  have hne : t.splitOn '.' ≠ [] := List.splitOn_ne_nil '.' t
  rw [ofDotted?, List.getLast?_eq_some_getLast hne, ofDotted, Text.afterLast,
    List.getLastD_eq_getLast?, List.getLast?_eq_some_getLast hne]
  rfl

/-- A text with a dot ends with a last one and an identifier. -/
theorem exists_append_cons {t : Text} (h : '.' ∈ t) :
    ∃ home ident, t = home ++ '.' :: ident ∧ '.' ∉ ident := by
  obtain ⟨after, before, hrev, hafter⟩ := List.eq_append_cons_of_mem (List.mem_reverse.mpr h)
  refine ⟨before.reverse, after.reverse, ?_, mt List.mem_reverse.mp hafter⟩
  rw [← t.reverse_reverse, hrev]
  simp

theorem ofDotted_append_cons (home : Text) {ident : Text} (h : '.' ∉ ident) :
    ofDotted (home ++ '.' :: ident) = ⟨home, ident⟩ := by
  have hsplit : (home ++ '.' :: ident).splitOn '.' = home.splitOn '.' ++ [ident] := by
    rw [List.splitOn_append_cons_self, List.splitOn_eq_singleton h]
  have hhome : Text.join ['.'] (home.splitOn '.') = home := List.intercalate_splitOn '.'
  rw [ofDotted, Text.afterLast, hsplit, List.dropLast_concat, List.getLastD_concat, hhome]

theorem ofDotted_of_not_mem {t : Text} (h : '.' ∉ t) : ofDotted t = ⟨[], t⟩ := by
  rw [ofDotted, Text.afterLast_of_not_mem h, List.splitOn_eq_singleton h]
  rfl

/-- Names in different homes are ordered by their homes. -/
theorem le_and_ne_of_home_lt {m n : Name} (h : m.home < n.home) : m.le n = true ∧ m ≠ n := by
  refine ⟨by simp [le, h], ?_⟩
  rintro rfl
  exact List.lt_irrefl _ h

theorem dotted_nil (ident : Text) : dotted ⟨[], ident⟩ = ident := rfl

theorem dotted_of_ne_nil {home ident : Text} (hh : home ≠ []) (hi : ident ≠ []) :
    dotted ⟨home, ident⟩ = home ++ '.' :: ident := by
  obtain ⟨c, home, rfl⟩ := List.exists_cons_of_ne_nil hh
  obtain ⟨d, ident, rfl⟩ := List.exists_cons_of_ne_nil hi
  rfl

theorem mem_dotted {n : Name} {c : Char} (h : c ∈ n.dotted) :
    c ∈ n.home ∨ c = '.' ∨ c ∈ n.ident := by
  unfold dotted at h
  split at h
  · exact .inr (.inr h)
  · exact .inl h
  · simpa using h

/-- A name in a module is not trimmed when its identifier has no blanks. -/
theorem trim_dotted {n : Name} (hhome : ∀ c ∈ n.home, Text.isAlphanumeric c = true ∨ c = '.')
    (hident : ∀ c ∈ n.ident, Text.isBlank c = false) : Text.trim n.dotted = n.dotted := by
  refine Text.trimWhile_eq_self fun c hc => ?_
  rcases mem_dotted hc with hc | rfl | hc
  · rcases hhome c hc with hc | rfl
    · exact Text.isBlank_of_isAlphanumeric hc
    · decide
  · decide
  · exact hident c hc

theorem ofDotted_dotted {n : Name} (hi : n.ident ≠ []) (h : '.' ∉ n.ident) :
    ofDotted n.dotted = n := by
  obtain ⟨home, ident⟩ := n
  by_cases hh : home = []
  · rw [hh, dotted_nil, ofDotted_of_not_mem h]
  · rw [dotted_of_ne_nil hh hi, ofDotted_append_cons home h]

/-- The home that is read takes in all of the identifier up to its last dot. -/
theorem ofDotted_dotted_of_mem {n : Name} (h : '.' ∈ n.ident) :
    ∃ before start ident, n.ident = start ++ '.' :: ident ∧ '.' ∉ ident ∧
      n.dotted = before ++ start ++ '.' :: ident ∧
      ofDotted n.dotted = ⟨before ++ start, ident⟩ := by
  obtain ⟨home, ident⟩ := n
  obtain ⟨start, last, hlast, hdot⟩ : ∃ start last, ident = start ++ '.' :: last ∧ '.' ∉ last :=
    exists_append_cons h
  have hdotted : ∃ u, dotted ⟨home, ident⟩ = u ++ ident := by
    by_cases hh : home = []
    · exact ⟨[], by rw [hh, dotted_nil, List.nil_append]⟩
    · exact ⟨home ++ ['.'], by rw [dotted_of_ne_nil hh (List.ne_nil_of_mem h)]; simp⟩
  obtain ⟨u, hu⟩ := hdotted
  have htext : dotted ⟨home, ident⟩ = u ++ start ++ '.' :: last := by
    rw [hu, List.append_assoc, ← hlast]
  refine ⟨u, start, last, hlast, hdot, htext, ?_⟩
  rw [htext, ofDotted_append_cons _ hdot]

/-- Of an operator in parentheses the opening one is read into the home, and the rest is still a
name of the same dotted form. -/
theorem ofDotted_dotted_operator {n : Name} {rest : Text} (hopen : n.ident = '(' :: rest)
    (hclose : rest.getLast? = some ')') (h : '.' ∈ n.ident) :
    '(' ∈ (ofDotted n.dotted).home ∧ (ofDotted n.dotted).ident ≠ [] ∧
      (ofDotted n.dotted).dotted = n.dotted := by
  obtain ⟨before, start, ident, hident, -, hdotted, hread⟩ := ofDotted_dotted_of_mem h
  have hparen : '(' ∈ before ++ start := by
    rw [hopen] at hident
    cases start with
    | nil => exact absurd (List.cons.inj hident).1 (by decide)
    | cons c start =>
      obtain rfl := (List.cons.inj hident).1
      simp
  have hne : ident ≠ [] := by
    rintro rfl
    have hlast : n.ident.getLast? = some '.' := by rw [hident, List.getLast?_concat]
    rw [hopen, List.getLast?_cons, hclose] at hlast
    exact absurd hlast (by decide)
  rw [hread]
  refine ⟨hparen, hne, ?_⟩
  rw [dotted_of_ne_nil (List.ne_nil_of_mem hparen) hne, hdotted]

theorem dot_not_mem_ident_ofDotted (t : Text) : '.' ∉ (ofDotted t).ident := by
  by_cases h : '.' ∈ t
  · obtain ⟨home, ident, rfl, hident⟩ := exists_append_cons h
    rw [ofDotted_append_cons home hident]
    exact hident
  · rw [ofDotted_of_not_mem h]
    exact h

/-- A home is shorter than the text it is read from, as the last dot does not belong to it. -/
theorem length_home_ofDotted_lt {t : Text} (h : t ≠ []) : (ofDotted t).home.length < t.length := by
  by_cases hdot : '.' ∈ t
  · obtain ⟨home, ident, rfl, hident⟩ := exists_append_cons hdot
    rw [ofDotted_append_cons home hident]
    simp only [List.length_append, List.length_cons]
    omega
  · rw [ofDotted_of_not_mem hdot]
    exact List.length_pos_iff.mpr h

theorem ofDotted_dotted_eq_self_iff (n : Name) :
    ofDotted n.dotted = n ↔ '.' ∉ n.ident ∧ (n.ident ≠ [] ∨ n.home = []) := by
  constructor
  · intro h
    have hdot := dot_not_mem_ident_ofDotted n.dotted
    rw [h] at hdot
    refine ⟨hdot, or_iff_not_imp_right.mpr fun hhome hident => ?_⟩
    obtain ⟨home, ident⟩ := n
    obtain rfl : ident = [] := hident
    have hdotted : dotted ⟨home, []⟩ = home := by
      obtain ⟨c, home, rfl⟩ := List.exists_cons_of_ne_nil hhome
      rfl
    have hlt : (ofDotted home).home.length < home.length := length_home_ofDotted_lt hhome
    rw [hdotted] at h
    rw [h] at hlt
    exact Nat.lt_irrefl _ hlt
  · rintro ⟨hdot, hident | hhome⟩
    · exact ofDotted_dotted hident hdot
    · obtain ⟨home, ident⟩ := n
      obtain rfl : home = [] := hhome
      rw [dotted_nil, ofDotted_of_not_mem hdot]

/-- The dot is written only between two parts that are not empty. -/
theorem dotted_eq_append_cons_iff {home ident : Text} :
    dotted ⟨home, ident⟩ = home ++ '.' :: ident ↔ home ≠ [] ∧ ident ≠ [] := by
  refine ⟨fun h => ⟨?_, ?_⟩, fun h => dotted_of_ne_nil h.1 h.2⟩
  · rintro rfl
    have hlength := congrArg List.length h
    rw [dotted_nil, List.nil_append, List.length_cons] at hlength
    omega
  · rintro rfl
    have hlength := congrArg List.length h
    cases home with
    | nil => cases hlength
    | cons c home =>
      simp only [dotted, List.length_append, List.length_cons] at hlength
      omega

theorem getLast?_append_cons_ne_dot_iff {home ident : Text} (h : '.' ∉ ident) :
    (home ++ '.' :: ident).getLast? ≠ some '.' ↔ ident ≠ [] := by
  rw [List.getLast?_append, List.getLast?_cons, Option.some_or]
  cases hlast : ident.getLast? with
  | none =>
    rw [List.getLast?_eq_none_iff] at hlast
    simp [hlast]
  | some c =>
    have hmem : c ∈ ident := List.mem_of_getLast? hlast
    have hc : c ≠ '.' := fun hc => h (hc ▸ hmem)
    simp [hc, List.ne_nil_of_mem hmem]

/-- A text whose only dot stands at its start has no home. -/
theorem exists_eq_dot_cons_iff {home ident : Text} (h : '.' ∉ ident) :
    (∃ u, '.' ∉ u ∧ home ++ '.' :: ident = '.' :: u) ↔ home = [] := by
  constructor
  · rintro ⟨u, hu, heq⟩
    cases home with
    | nil => rfl
    | cons c home =>
      obtain rfl := (List.cons.inj heq).2
      exact absurd (by simp) hu
  · rintro rfl
    exact ⟨ident, h, rfl⟩

/-- Where reading and writing names are inverse to each other. A name is read back exactly if its
identifier has no dot, and is not empty unless the home is too. Every text is read as a name, and
written again exactly if it has no dot or a dot between two parts that are not empty: it does not end
in a dot, and its only dot does not stand at its start. -/
theorem ofDotted_inverse_iff :
    (∀ n : Name, ofDotted? n.dotted = some n ↔
      '.' ∉ n.ident ∧ (n.ident ≠ [] ∨ n.home = [])) ∧
    ∀ t : Text, ofDotted? t = some (ofDotted t) ∧
      ((ofDotted t).dotted = t ↔
        '.' ∉ t ∨ ((ofDotted t).home ≠ [] ∧ (ofDotted t).ident ≠ [])) ∧
      ((ofDotted t).home ≠ [] ∧ (ofDotted t).ident ≠ [] ↔
        '.' ∈ t ∧ t.getLast? ≠ some '.' ∧ ¬ ∃ u, '.' ∉ u ∧ t = '.' :: u) := by
  constructor
  · intro n
    rw [ofDotted?_eq_some, Option.some.injEq]
    exact ofDotted_dotted_eq_self_iff n
  · intro t
    refine ⟨ofDotted?_eq_some t, ?_⟩
    by_cases h : '.' ∈ t
    · obtain ⟨home, ident, rfl, hident⟩ := exists_append_cons h
      rw [ofDotted_append_cons home hident, dotted_eq_append_cons_iff,
        getLast?_append_cons_ne_dot_iff hident, exists_eq_dot_cons_iff hident]
      constructor
      · simp [h]
      · simp only [h, true_and]
        exact And.comm
    · rw [ofDotted_of_not_mem h]
      simp [h, dotted_nil]

end DocIndex.Name
