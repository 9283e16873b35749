import DocIndex.Proofs.Text.Alphabet
import DocIndex.Proofs.Text.Trim
import DocIndex.Signature.Token
import Mathlib.Data.List.TakeWhile

/-!
The tokens of a text as a relation, and the scanner as the function that it is. An identifier takes
all characters that can go on with it; no other token needs what comes after it.
-/
namespace DocIndex.Token

def IsIdent (name : Text) : Prop :=
  ∃ c rest, name = c :: rest ∧ startsIdent c = true ∧ ∀ d ∈ rest, continuesIdent d = true

/-- No identifier that ends where the text begins could go on. -/
def Breaks (t : Text) : Prop := ∀ c ∈ t.head?, continuesIdent c = false

inductive Scans : Text → List Token → Prop where
  | nil : Scans [] []
  | blank {c : Char} {t : Text} {ts : List Token} (hc : Text.isBlank c = true) (h : Scans t ts) :
      Scans (c :: t) ts
  | arrow {t : Text} {ts : List Token} (h : Scans t ts) : Scans ('-' :: '>' :: t) (.arrow :: ts)
  | punctuation {c : Char} {u : Token} {t : Text} {ts : List Token}
      (hc : ofPunctuation? c = some u) (h : Scans t ts) : Scans (c :: t) (u :: ts)
  | ident {name t : Text} {ts : List Token} (hn : IsIdent name) (hb : Breaks t) (h : Scans t ts) :
      Scans (name ++ t) (.ident name :: ts)

theorem isIdent_singleton {c : Char} (h : startsIdent c = true) : IsIdent [c] :=
  ⟨c, [], rfl, h, List.forall_mem_nil _⟩

theorem startsIdent_of_isBlank {c : Char} (h : Text.isBlank c = true) : startsIdent c = false := by
  have hne : c ≠ '_' := by
    rintro rfl
    exact absurd h (by decide)
  simp [startsIdent, Text.isAlphabetic_of_isBlank h, hne]

theorem continuesIdent_of_isBlank {c : Char} (h : Text.isBlank c = true) :
    continuesIdent c = false := by
  have hne : c ≠ '_' := by
    rintro rfl
    exact absurd h (by decide)
  have hdot : c ≠ '.' := by
    rintro rfl
    exact absurd h (by decide)
  simp [continuesIdent, Text.isAlphanumeric_of_isBlank h, hne, hdot]

theorem continuesIdent_of_startsIdent {c : Char} (h : startsIdent c = true) :
    continuesIdent c = true := by
  simp only [startsIdent, Bool.or_eq_true] at h
  rcases h with h | h <;> simp [continuesIdent, Text.isAlphanumeric, h]

/-- Punctuation is neither blank nor a part of an identifier or an arrow. -/
theorem class_of_punctuation {c : Char} {u : Token} (h : ofPunctuation? c = some u) :
    Text.isBlank c = false ∧ c ≠ '-' ∧ continuesIdent c = false := by
  unfold ofPunctuation? at h
  split at h <;> cases h <;> decide +kernel

theorem ofPunctuation?_of_startsIdent {c : Char} (h : startsIdent c = true) :
    ofPunctuation? c = none := by
  cases hc : ofPunctuation? c with
  | none => rfl
  | some u =>
    have hno := (class_of_punctuation hc).2.2
    rw [continuesIdent_of_startsIdent h] at hno
    cases hno

theorem breaks_cons {c : Char} {t : Text} : Breaks (c :: t) ↔ continuesIdent c = false := by
  simp [Breaks]

/-- The scanner by the first character of a text. -/
theorem scan_cons (c : Char) (t : Text) :
    scan (c :: t) =
      if Text.isBlank c then scan t
      else if c = '-' then
        match t with
        | '>' :: t => (scan t).map (.arrow :: ·)
        | d :: _ => .error (.unexpectedChar d)
        | [] => .error .unexpectedEnd
      else
        match ofPunctuation? c with
        | some u => (scan t).map (u :: ·)
        | none => if startsIdent c then scanAfter [c] t else .error (.unexpectedChar c) := by
  have hclose : ∀ x : Except SyntaxError (List Token), x.map (closeIdent []) = x := by
    intro x
    cases x <;> rfl
  simp only [scan, scanAfter.eq_def [] (c :: t), List.isEmpty_nil, Bool.not_true, Bool.false_and,
    Bool.false_eq_true, if_false, hclose]
  rfl

/-- An identifier ends where the text cannot go on with it. -/
theorem scanAfter_of_breaks {t : Text} (h : Breaks t) (word : Text) :
    scanAfter word t = (scan t).map (closeIdent word) := by
  have hmap : ∀ (u : Token) (x : Except SyntaxError (List Token)),
      x.map (fun ts => closeIdent word (u :: ts)) = (x.map (u :: ·)).map (closeIdent word) := by
    intro u x
    cases x <;> rfl
  cases t with
  | nil => rfl
  | cons c t =>
    have hc : continuesIdent c = false := breaks_cons.mp h
    rw [scan_cons, scanAfter.eq_def]
    simp only [hc, Bool.and_false, Bool.false_eq_true, if_false]
    by_cases hblank : Text.isBlank c = true
    · simp only [hblank, if_true, scan]
    · simp only [hblank]
      by_cases hdash : c = '-'
      · simp only [hdash, if_true]
        cases t with
        | nil => rfl
        | cons d t =>
          by_cases hd : d = '>'
          · subst hd
            exact hmap .arrow (scan t)
          · split <;> simp_all [Except.map]
      · simp only [hdash, if_false]
        cases ofPunctuation? c with
        | some u => exact hmap u (scan t)
        | none =>
          by_cases hs : startsIdent c = true
          · simp only [hs, if_true]
            rfl
          · simp only [hs]
            rfl

/-- All characters that can go on with an identifier are taken into it. -/
theorem scanAfter_append {more : Text} (hmore : ∀ d ∈ more, continuesIdent d = true) {word : Text}
    (hword : word ≠ []) (t : Text) :
    scanAfter word (more ++ t) = scanAfter (more.reverse ++ word) t := by
  induction more generalizing word with
  | nil => rfl
  | cons d more ih =>
    have hd : continuesIdent d = true := hmore d List.mem_cons_self
    have hempty : word.isEmpty = false := by simpa using hword
    rw [List.cons_append, scanAfter.eq_def]
    simp only [hd, hempty, Bool.not_false, Bool.and_self, if_true]
    rw [ih (fun e he => hmore e (List.mem_cons_of_mem d he)) (List.cons_ne_nil d word)]
    simp

theorem scan_blank {c : Char} (hc : Text.isBlank c = true) (t : Text) : scan (c :: t) = scan t := by
  rw [scan_cons, if_pos hc]

theorem scan_arrow (t : Text) : scan ('-' :: '>' :: t) = (scan t).map (.arrow :: ·) := by
  have hblank : Text.isBlank '-' = false := by decide
  simp [scan_cons, hblank]

theorem scan_punctuation {c : Char} {u : Token} (hc : ofPunctuation? c = some u) (t : Text) :
    scan (c :: t) = (scan t).map (u :: ·) := by
  obtain ⟨hblank, hdash, -⟩ := class_of_punctuation hc
  simp [scan_cons, hblank, hdash, hc]

theorem scan_ident {name t : Text} (hn : IsIdent name) (hb : Breaks t) :
    scan (name ++ t) = (scan t).map (.ident name :: ·) := by
  obtain ⟨c, rest, rfl, hc, hrest⟩ := hn
  have hblank : Text.isBlank c = false := by
    cases h : Text.isBlank c with
    | false => rfl
    | true =>
      rw [startsIdent_of_isBlank h] at hc
      cases hc
  have hdash : c ≠ '-' := by
    rintro rfl
    exact absurd hc (by decide +kernel)
  have hclose : closeIdent (rest.reverse ++ [c]) = (.ident (c :: rest) :: ·) := by
    funext ts
    cases h : rest.reverse ++ [c] with
    | nil => exact absurd h (by simp)
    | cons d word => simp [closeIdent, ← h]
  rw [List.cons_append, scan_cons]
  simp only [hblank, hdash, ofPunctuation?_of_startsIdent hc, hc, Bool.false_eq_true, if_false,
    if_true]
  rw [scanAfter_append hrest (List.cons_ne_nil c []), scanAfter_of_breaks hb, hclose]

/-- The scanner finds the tokens that a text is written with. -/
theorem scan_of_scans {t : Text} {ts : List Token} (h : Scans t ts) : scan t = .ok ts := by
  induction h with
  | nil => rfl
  | blank hc h ih => rw [scan_blank hc, ih]
  | arrow h ih => rw [scan_arrow, ih]; rfl
  | punctuation hc h ih => rw [scan_punctuation hc, ih]; rfl
  | ident hn hb h ih => rw [scan_ident hn hb, ih]; rfl

theorem map_cons_eq_ok_iff {u : Token} {x : Except SyntaxError (List Token)} {ts : List Token} :
    x.map (u :: ·) = .ok ts ↔ ∃ us, x = .ok us ∧ u :: us = ts := by
  cases x <;> simp [Except.map]

/-- A text that starts an identifier is an identifier as long as possible and what follows it. -/
theorem exists_ident {c : Char} (hc : startsIdent c = true) (t : Text) :
    ∃ name rest, c :: t = name ++ rest ∧ IsIdent name ∧ Breaks rest := by
  refine ⟨c :: t.takeWhile continuesIdent, t.dropWhile continuesIdent, ?_, ⟨c, _, rfl, hc, ?_⟩, ?_⟩
  · rw [List.cons_append, List.takeWhile_append_dropWhile]
  · exact fun d hd => List.mem_takeWhile_imp hd
  · intro d hd
    have hnot := List.head?_dropWhile_not continuesIdent t
    rw [Option.mem_def.mp hd] at hnot
    exact hnot

/-- What the scanner finds are the tokens that the text is written with. -/
theorem scans_of_scan {t : Text} {ts : List Token} (h : scan t = .ok ts) : Scans t ts := by
  induction hn : t.length using Nat.strongRecOn generalizing t ts with
  | ind n ih =>
    subst hn
    cases t with
    | nil =>
      obtain rfl : [] = ts := Except.ok.inj h
      exact .nil
    | cons c t =>
      by_cases hblank : Text.isBlank c = true
      · rw [scan_blank hblank] at h
        exact .blank hblank (ih t.length (by simp) h rfl)
      by_cases hstart : startsIdent c = true
      · obtain ⟨name, rest, heq, hident, hbreaks⟩ := exists_ident hstart t
        rw [heq, scan_ident hident hbreaks] at h
        obtain ⟨us, hus, rfl⟩ := map_cons_eq_ok_iff.mp h
        have hlt : rest.length < (c :: t).length := by
          obtain ⟨d, more, rfl, -, -⟩ := hident
          simp only [heq, List.length_append, List.length_cons]
          omega
        rw [heq]
        exact .ident hident hbreaks (ih rest.length hlt hus rfl)
      rw [scan_cons, if_neg hblank] at h
      split at h
      next hdash =>
        subst hdash
        split at h
        next rest =>
          obtain ⟨us, hus, rfl⟩ := map_cons_eq_ok_iff.mp h
          exact .arrow (ih rest.length (by simp only [List.length_cons]; omega) hus rfl)
        next => cases h
        next => cases h
      next =>
        split at h
        next u hu =>
          obtain ⟨us, hus, rfl⟩ := map_cons_eq_ok_iff.mp h
          exact .punctuation hu (ih t.length (by simp) hus rfl)
        next => cases h

theorem scan_eq_ok_iff {t : Text} {ts : List Token} : scan t = .ok ts ↔ Scans t ts :=
  ⟨scans_of_scan, scan_of_scans⟩

/-- Every identifier among the tokens is one that a text can be written with. -/
def Lexed (ts : List Token) : Prop := ∀ name, .ident name ∈ ts → IsIdent name

@[simp] theorem lexed_append {ts us : List Token} : Lexed (ts ++ us) ↔ Lexed ts ∧ Lexed us := by
  simp only [Lexed, List.mem_append, or_imp, forall_and]

@[simp] theorem lexed_cons {u : Token} {ts : List Token} :
    Lexed (u :: ts) ↔ (∀ name, u = .ident name → IsIdent name) ∧ Lexed ts := by
  simp only [Lexed, List.mem_cons, or_imp, forall_and, eq_comm]

theorem Scans.lexed {t : Text} {ts : List Token} (h : Scans t ts) : Lexed ts := by
  induction h with
  | nil => simp [Lexed]
  | blank _ _ ih => exact ih
  | arrow _ ih => simpa using ih
  | punctuation hc _ ih =>
    refine lexed_cons.mpr ⟨?_, ih⟩
    rintro name rfl
    unfold ofPunctuation? at hc
    split at hc <;> cases hc
  | ident hn _ _ ih => simpa using ⟨hn, ih⟩

/-- Texts one after the other, if the second cannot go on with an identifier of the first. -/
theorem Scans.append {t rest : Text} {ts us : List Token} (h : Scans t ts) (hb : Breaks rest)
    (hr : Scans rest us) : Scans (t ++ rest) (ts ++ us) := by
  induction h with
  | nil => exact hr
  | blank hc _ ih => exact .blank hc ih
  | arrow _ ih => exact .arrow ih
  | punctuation hc _ ih => exact .punctuation hc ih
  | ident hn hbreaks _ ih =>
    rename_i name t ts _
    rw [List.append_assoc]
    refine .ident hn ?_ ih
    cases t with
    | nil => exact hb
    | cons c t => exact hbreaks

theorem breaks_of_isBlank {c : Char} (h : Text.isBlank c = true) (t : Text) : Breaks (c :: t) :=
  breaks_cons.mpr (continuesIdent_of_isBlank h)

theorem breaks_of_punctuation {c : Char} {u : Token} (h : ofPunctuation? c = some u) (t : Text) :
    Breaks (c :: t) :=
  breaks_cons.mpr (class_of_punctuation h).2.2

theorem scans_ident {name : Text} (h : IsIdent name) : Scans name [.ident name] := by
  simpa using Scans.ident h (by simp [Breaks]) .nil

theorem scans_blanks {blanks : Text} (h : ∀ c ∈ blanks, Text.isBlank c = true) :
    Scans blanks [] := by
  induction blanks with
  | nil => exact .nil
  | cons c blanks ih =>
    obtain ⟨hc, hblanks⟩ := List.forall_mem_cons.mp h
    exact .blank hc (ih hblanks)

/-- Blanks before a text add no tokens and refuse none. -/
theorem scans_blanks_append {blanks t : Text} {ts : List Token}
    (h : ∀ c ∈ blanks, Text.isBlank c = true) : Scans (blanks ++ t) ts ↔ Scans t ts := by
  induction blanks with
  | nil => rfl
  | cons c blanks ih =>
    obtain ⟨hc, hblanks⟩ := List.forall_mem_cons.mp h
    rw [List.cons_append, ← scan_eq_ok_iff, scan_blank hc, scan_eq_ok_iff, ih hblanks]

/-- What a lexeme without blanks takes of a text with blanks at its end, it takes of the text. -/
theorem exists_eq_append_of_blanks {lexeme rest t blanks : Text}
    (h : ∀ c ∈ blanks, Text.isBlank c = true) (hlexeme : ∀ c ∈ lexeme, Text.isBlank c = false)
    (heq : t ++ blanks = lexeme ++ rest) : ∃ u, t = lexeme ++ u ∧ u ++ blanks = rest := by
  rcases List.append_eq_append_iff.mp heq with ⟨more, hl, hblanks⟩ | ⟨u, ht, hrest⟩
  · have hmore : more = [] := by
      refine List.eq_nil_iff_forall_not_mem.mpr fun c hc => ?_
      have hblank := h c (by simp [hblanks, hc])
      rw [hlexeme c (by simp [hl, hc])] at hblank
      cases hblank
    subst hmore
    exact ⟨[], by simpa using hl.symm, by simpa using hblanks⟩
  · exact ⟨u, ht, hrest.symm⟩

theorem isBlank_of_mem_ident {name : Text} (h : IsIdent name) :
    ∀ c ∈ name, Text.isBlank c = false := by
  obtain ⟨first, rest, rfl, hfirst, hrest⟩ := h
  intro c hc
  have hcontinues : continuesIdent c = true := by
    rcases List.mem_cons.mp hc with rfl | hc
    · exact continuesIdent_of_startsIdent hfirst
    · exact hrest c hc
  cases hblank : Text.isBlank c with
  | false => rfl
  | true =>
    rw [continuesIdent_of_isBlank hblank] at hcontinues
    cases hcontinues

/-- Blanks after a text add no tokens and refuse none. -/
theorem scans_append_blanks {blanks t : Text} {ts : List Token}
    (h : ∀ c ∈ blanks, Text.isBlank c = true) : Scans (t ++ blanks) ts ↔ Scans t ts := by
  constructor
  · intro hscans
    generalize hs : t ++ blanks = s at hscans
    induction hscans generalizing t blanks with
    | nil =>
      obtain ⟨rfl, -⟩ := List.append_eq_nil_iff.mp hs
      exact .nil
    | blank hc _ ih =>
      cases t with
      | nil =>
        rw [List.nil_append] at hs
        subst hs
        exact ih (List.forall_mem_cons.mp h).2 rfl
      | cons d t =>
        obtain ⟨rfl, htail⟩ := List.cons.inj hs
        exact .blank hc (ih h htail)
    | arrow _ ih =>
      have hlexeme : ∀ c ∈ ['-', '>'], Text.isBlank c = false :=
        List.forall_mem_cons.mpr ⟨by decide, List.forall_mem_singleton.mpr (by decide)⟩
      obtain ⟨u, rfl, hu⟩ := exists_eq_append_of_blanks h hlexeme hs
      exact .arrow (ih h hu)
    | @punctuation c _ _ _ hc _ ih =>
      have hlexeme : ∀ d ∈ [c], Text.isBlank d = false := by simp [(class_of_punctuation hc).1]
      obtain ⟨u, rfl, hu⟩ := exists_eq_append_of_blanks h hlexeme hs
      exact .punctuation hc (ih h hu)
    | ident hn hb _ ih =>
      obtain ⟨u, rfl, rfl⟩ := exists_eq_append_of_blanks h (isBlank_of_mem_ident hn) hs
      refine .ident hn ?_ (ih h rfl)
      cases u with
      | nil => simp [Breaks]
      | cons c u => exact hb
  · intro hscans
    have hbreaks : Breaks blanks := by
      cases blanks with
      | nil => simp [Breaks]
      | cons c blanks => exact breaks_of_isBlank (h c List.mem_cons_self) blanks
    simpa using hscans.append hbreaks (scans_blanks h)

theorem scans_trim_iff {t : Text} {ts : List Token} : Scans (Text.trim t) ts ↔ Scans t ts := by
  obtain ⟨before, after, ht, hbefore, hafter⟩ := Text.exists_append_trimWhile Text.isBlank t
  nth_rewrite 2 [ht]
  rw [scans_blanks_append hbefore, scans_append_blanks hafter, Text.trim]

end DocIndex.Token
