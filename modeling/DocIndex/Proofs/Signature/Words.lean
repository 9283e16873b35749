import DocIndex.Directive
import DocIndex.Proofs.Signature.RoundTrip

/-!
Words and operators as signatures: a word in lower case reads as a variable, and an operator in
parentheses as no type.
-/
namespace DocIndex.Ty

open Directive Token

theorem isIdent_word {c : Char} {rest : Text} (hc : c.isAlpha = true)
    (hrest : ∀ d ∈ rest, isWordChar d = true) : IsIdent (c :: rest) := by
  refine ⟨c, rest, rfl, by simp [startsIdent, Text.isAlphabetic_of_isAlpha hc], fun d hd => ?_⟩
  have hword := hrest d hd
  simp only [isWordChar, Char.isAlphanum, Bool.or_eq_true, decide_eq_true_eq] at hword
  rcases hword with (halpha | hdigit) | hunderscore
  · simp [continuesIdent, Text.isAlphanumeric, Text.isAlphabetic_of_isAlpha halpha]
  · simp [continuesIdent, Text.isAlphanumeric, Text.isNumeric_of_isDigit hdigit]
  · simp [continuesIdent, hunderscore]

theorem namesConstructor_word {c : Char} {rest : Text} (hc : c.isLower = true)
    (hrest : ∀ d ∈ rest, isWordChar d = true) : namesConstructor (c :: rest) = false := by
  have hdot : '.' ∉ c :: rest := by
    intro h
    rcases List.mem_cons.mp h with rfl | h
    · cases hc
    · exact absurd (hrest _ h) (by decide)
  rw [namesConstructor, Text.afterLast_of_not_mem hdot]
  exact Text.isUppercase_of_isLower hc

theorem ofSignature_word {c : Char} {rest : Text} (hc : c.isLower = true)
    (hrest : ∀ d ∈ rest, isWordChar d = true) : ofSignature (c :: rest) = .var (c :: rest) := by
  have halpha : c.isAlpha = true := Text.isAlpha_of_isLower hc
  have hwell : WellFormed SyntaxError.maxDepth (.var (c :: rest)) :=
    .var (isIdent_word halpha hrest) (namesConstructor_word hc hrest)
  exact ofSignature_of_ok (ofText_text hwell)

/-- After an opening parenthesis a phrase goes on with an atom or closes at once. -/
def Opens {α : Type} (Phrase : List Token → α → Prop) : Prop :=
  ∀ {ts us x}, Phrase ts x → ts = .openParen :: us →
    ∃ u vs, us = u :: vs ∧ (u.startsAtom = true ∨ u = .closeParen)

theorem Opens.append {α : Type} {Phrase : List Token → α → Prop} (ho : Opens Phrase)
    (hb : Begins Phrase) {ts more us : List Token} {x : α} (h : Phrase ts x)
    (heq : ts ++ more = .openParen :: us) :
    ∃ u vs, us = u :: vs ∧ (u.startsAtom = true ∨ u = .closeParen) := by
  obtain ⟨v, vs, rfl, -⟩ := hb h
  obtain ⟨rfl, rfl⟩ := List.cons.inj heq
  obtain ⟨u, ws, rfl, hu⟩ := ho h rfl
  exact ⟨u, ws ++ more, rfl, hu⟩

theorem Opens.separated {α : Type} {Item : List Token → α → Prop} {separator : Token}
    (ho : Opens Item) (hb : Begins Item) : Opens (Separated separator Item) := by
  intro ts us xs h heq
  cases h with
  | one h => exact ho h heq
  | cons h _ => exact ho.append hb h heq

theorem opens_enclosed {ts us : List Token} (hb : ∃ u vs, ts = u :: vs ∧ u.startsAtom = true)
    (heq : .openParen :: (ts ++ [.closeParen]) = .openParen :: us) :
    ∃ u vs, us = u :: vs ∧ (u.startsAtom = true ∨ u = .closeParen) := by
  obtain ⟨u, vs, rfl, hu⟩ := hb
  obtain rfl := (List.cons.inj heq).2
  exact ⟨u, vs ++ [.closeParen], rfl, .inl hu⟩

theorem constructor_opens {levels : Nat} : Opens (Constructor levels) := by
  intro ts us name h heq
  cases h with
  | bare h => cases heq
  | enclosed h => exact opens_enclosed (constructor_begins h) heq

section

variable {Nested : List Token → Ty → Prop} {levels : Nat}

theorem atom_opens (hb : Begins Nested) : Opens (Atom Nested) := by
  intro ts us t h heq
  cases h with
  | unit =>
    obtain rfl := (List.cons.inj heq).2
    exact ⟨.closeParen, [], rfl, .inr rfl⟩
  | enclosed h => exact opens_enclosed (hb h) heq
  | tuple h _ => exact opens_enclosed (hb.separated h) heq
  | _ => cases heq

theorem applied_opens (hb : Begins Nested) : Opens (Applied Nested levels) := by
  intro ts us t h heq
  cases h with
  | atom h => exact atom_opens hb h heq
  | apply h _ _ =>
    have hopens : Opens (Constructor levels) := constructor_opens
    exact hopens.append constructor_begins h heq

theorem arrows_opens (hb : Begins Nested) : Opens (Arrows Nested levels) := by
  intro ts us t h heq
  cases h with
  | one h => exact applied_opens hb h heq
  | function h _ =>
    have hopens : Opens (Applied Nested levels) := applied_opens hb
    exact hopens.separated applied_begins h heq

end

theorem derives_opens {levels : Nat} : Opens (Derives levels) := by
  intro ts us t h heq
  cases levels with
  | zero => cases h
  | succ levels => exact arrows_opens derives_begins h heq

/-- A character that is neither blank nor in an identifier makes a token of its own. -/
theorem exists_token_of_scan {c : Char} {t : Text} {ts : List Token} (h : scan (c :: t) = .ok ts)
    (hblank : Text.isBlank c = false) (hstart : startsIdent c = false) :
    ∃ u us, ts = u :: us ∧ (u = .arrow ∨ ofPunctuation? c = some u) := by
  rw [scan_cons] at h
  simp only [hblank, hstart, Bool.false_eq_true, if_false] at h
  split at h
  next =>
    split at h
    next rest =>
      obtain ⟨us, -, rfl⟩ := map_cons_eq_ok_iff.mp h
      exact ⟨.arrow, us, rfl, .inl rfl⟩
    next => cases h
    next => cases h
  next =>
    split at h
    next u hu =>
      obtain ⟨us, -, rfl⟩ := map_cons_eq_ok_iff.mp h
      exact ⟨u, us, rfl, .inr hu⟩
    next => cases h

theorem opens_of_punctuation {c : Char} {u : Token} (h : ofPunctuation? c = some u)
    (hu : u.startsAtom = true ∨ u = .closeParen) : c = '(' ∨ c = ')' ∨ c = '\x7b' := by
  unfold ofPunctuation? at h
  split at h <;> cases h <;> simp [startsAtom] at hu ⊢

/-- An operator reads as no type: what follows its opening parenthesis cannot begin one. -/
theorem ofText_operator {c : Char} {rest : Text} (hc : isOperatorChar c = true)
    (halpha : Text.isAlphabetic c = false) (hbrace : c ≠ '\x7b') (t : Ty) :
    ofText ('(' :: c :: rest) ≠ .ok t := by
  intro h
  simp only [isOperatorChar, isWordChar, Bool.not_eq_true', Bool.or_eq_false_iff,
    decide_eq_false_iff_not] at hc
  obtain ⟨⟨⟨hblank, -, hunderscore⟩, hopen⟩, hclose⟩ := hc
  have hstart : startsIdent c = false := by simp [startsIdent, halpha, hunderscore]
  obtain ⟨ts, hscans, hderives⟩ := ofText_eq_ok_iff.mp h
  have hscan := scan_of_scans hscans
  have hparen : ofPunctuation? '(' = some .openParen := rfl
  rw [scan_punctuation hparen] at hscan
  obtain ⟨us, hinner, rfl⟩ := map_cons_eq_ok_iff.mp hscan
  obtain ⟨u, vs, rfl, hu⟩ := exists_token_of_scan hinner hblank hstart
  obtain ⟨v, ws, heq, hv⟩ := derives_opens hderives rfl
  obtain ⟨rfl, -⟩ := List.cons.inj heq
  rcases hu with rfl | hu
  · rcases hv with hv | hv <;> cases hv
  · rcases opens_of_punctuation hu hv with rfl | rfl | rfl
    · exact hopen rfl
    · exact hclose rfl
    · exact hbrace rfl

end DocIndex.Ty
