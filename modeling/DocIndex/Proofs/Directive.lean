import Mathlib.Data.List.Chain
import DocIndex.Proofs.Directive.Parts
import DocIndex.Proofs.Text.Alphabet
import DocIndex.Proofs.Text.Pieces
import DocIndex.Proofs.Text.Trim

/-!
Directives that are written out are read back. What is written is described from outside: names with
commas and blanks between them, and then blanks or prose.
-/
namespace DocIndex.Directive

/-- The text lists the names: commas between them, blanks before each name and each comma. -/
inductive Lists : Text → List Text → Prop where
  | one {before name : Text} (hb : ∀ c ∈ before, Text.isBlank c = true)
      (hn : isIdentifier name = true) (hc : ',' ∉ name) : Lists (before ++ name) [name]
  | cons {before name after text : Text} {names : List Text}
      (hb : ∀ c ∈ before, Text.isBlank c = true) (hn : isIdentifier name = true)
      (hc : ',' ∉ name) (ha : ∀ c ∈ after, Text.isBlank c = true) (h : Lists text names) :
      Lists (before ++ (name ++ after) ++ ',' :: text) (name :: names)

/-- What may stand after the last name: blanks, or blanks and then prose that starts with no comma
and holds no directive. -/
inductive Trails : Text → Prop where
  | blanks {blanks : Text} (h : ∀ c ∈ blanks, Text.isBlank c = true) : Trails blanks
  | prose {blanks prose : Text} {c : Char} (hne : blanks ≠ [])
      (h : ∀ d ∈ blanks, Text.isBlank d = true) (hc : Text.isBlank c = false) (hcomma : c ≠ ',')
      (hmarker : ¬ marker <:+: blanks ++ c :: prose) : Trails (blanks ++ c :: prose)

inductive Writes : Text → List Text → Prop where
  | mk {list trail : Text} {names : List Text} (h : Lists list names) (ht : Trails trail) :
      Writes (marker ++ (list ++ trail)) names

theorem isBlank_of_isWordChar {c : Char} (h : isWordChar c = true) : Text.isBlank c = false := by
  simp only [isWordChar, Bool.or_eq_true, decide_eq_true_eq] at h
  rcases h with h | rfl
  · exact Text.isBlank_of_isAlphanumeric (Text.isAlphanumeric_of_isAlphanum h)
  · decide

/-- A name starts with a letter or a parenthesis and holds no blank. -/
theorem exists_cons_of_isIdentifier {name : Text} (h : isIdentifier name = true) :
    ∃ c rest, name = c :: rest ∧ (c = '(' ∨ c.isAlpha = true) ∧
      ∀ d ∈ name, Text.isBlank d = false := by
  unfold isIdentifier at h
  split at h
  next => cases h
  next rest =>
    simp only [Bool.and_eq_true, decide_eq_true_eq, List.all_eq_true] at h
    obtain ⟨⟨hlast, -⟩, hall⟩ := h
    refine ⟨'(', rest, rfl, .inl rfl, fun d hd => ?_⟩
    rw [← List.dropLast_append_getLast? ')' hlast] at hd
    simp only [List.mem_cons, List.mem_append, List.not_mem_nil, or_false] at hd
    rcases hd with rfl | hd | rfl
    · decide
    · have hoperator := hall d hd
      simp only [isOperatorChar, Bool.not_eq_true', Bool.or_eq_false_iff] at hoperator
      exact hoperator.1.1.1
    · decide
  next c rest _ =>
    simp only [Bool.and_eq_true, List.all_eq_true] at h
    refine ⟨c, rest, rfl, .inr h.1, List.forall_mem_cons.mpr ⟨Text.isBlank_of_isAlpha h.1, ?_⟩⟩
    exact fun d hd => isBlank_of_isWordChar (h.2 d hd)

/-- A name with a character that words do not have is an operator in parentheses. -/
theorem exists_operator_of_mem {name : Text} {c : Char} (h : isIdentifier name = true)
    (hc : isWordChar c = false) (hmem : c ∈ name) :
    ∃ rest, name = '(' :: rest ∧ rest.getLast? = some ')' := by
  unfold isIdentifier at h
  split at h
  next => cases h
  next rest =>
    simp only [Bool.and_eq_true, decide_eq_true_eq] at h
    exact ⟨rest, rfl, h.1.1⟩
  next d rest _ =>
    simp only [Bool.and_eq_true, List.all_eq_true] at h
    have hword : ∀ e ∈ d :: rest, isWordChar e = true := by
      refine List.forall_mem_cons.mpr ⟨?_, h.2⟩
      simp [isWordChar, Char.isAlphanum, h.1]
    rw [hword c hmem] at hc
    cases hc

theorem not_mem_of_blanks {c : Char} {t : Text} (hc : Text.isBlank c = false)
    (h : ∀ d ∈ t, Text.isBlank d = true) : c ∉ t := by
  intro hmem
  rw [h c hmem] at hc
  cases hc

section

variable {before name blanks prose : Text} {c : Char}
  (hb : ∀ d ∈ before, Text.isBlank d = true) (hn : isIdentifier name = true)
  (hne : blanks ≠ []) (h : ∀ d ∈ blanks, Text.isBlank d = true) (hc : Text.isBlank c = false)

include hb hn in
theorem dropWhile_isBlank (t : Text) :
    (before ++ (name ++ t)).dropWhile Text.isBlank = name ++ t := by
  obtain ⟨d, rest, rfl, -, hplain⟩ := exists_cons_of_isIdentifier hn
  have hd : Text.isBlank d = false := hplain d List.mem_cons_self
  rw [List.dropWhile_append_of_pos hb, List.cons_append, List.dropWhile_cons_of_neg (by simp [hd])]

include hb hn hne h in
/-- A name with blanks and prose after it is the first word. -/
theorem firstWord_name_append (t : Text) :
    Text.firstWord (before ++ (name ++ (blanks ++ t))) = some name := by
  obtain ⟨e, more, rfl⟩ := List.exists_cons_of_ne_nil hne
  have he : Text.isBlank e = true := h e List.mem_cons_self
  rw [Text.firstWord, dropWhile_isBlank hb hn]
  obtain ⟨d, rest, rfl, -, hplain⟩ := exists_cons_of_isIdentifier hn
  have hrest : ∀ f ∈ rest, (!Text.isBlank f) = true := fun f hf => by
    rw [hplain f (List.mem_cons_of_mem d hf), Bool.not_false]
  simp only [List.cons_append]
  rw [List.takeWhile_append_of_pos hrest, List.takeWhile_cons_of_neg (by simp [he]),
    List.append_nil]

include hb hn hne h hc in
/-- A name with blanks and prose after it is no name. -/
theorem isIdentifier_trim_name_append :
    isIdentifier (Text.trim (before ++ (name ++ (blanks ++ c :: prose)))) = false := by
  cases hall : isIdentifier (Text.trim (before ++ (name ++ (blanks ++ c :: prose)))) with
  | false => rfl
  | true =>
    obtain ⟨e, more, rfl⟩ := List.exists_cons_of_ne_nil hne
    obtain ⟨-, -, -, -, hplain⟩ := exists_cons_of_isIdentifier hall
    have hstarts :
        name ++ e :: more <+: Text.trim (before ++ (name ++ (e :: more ++ c :: prose))) := by
      rw [Text.trim, Text.trimWhile_eq, dropWhile_isBlank hb hn, ← List.append_assoc]
      exact Text.prefix_rdropWhile hc
    have he := hplain e (hstarts.subset (by simp))
    rw [h e List.mem_cons_self] at he
    cases he

end

/-- The last name of a list is read, and nothing of what follows it. -/
theorem listedNames_name_append {before name trail : Text}
    (hb : ∀ c ∈ before, Text.isBlank c = true) (hn : isIdentifier name = true) (hcomma : ',' ∉ name)
    (ht : Trails trail) :
    listedNames isIdentifier ((before ++ (name ++ trail)).splitOn ',') = [name] := by
  have hbefore : ',' ∉ before := not_mem_of_blanks rfl hb
  cases ht with
  | blanks h =>
    obtain ⟨-, -, -, -, hplain⟩ := exists_cons_of_isIdentifier hn
    have htrail : ',' ∉ trail := not_mem_of_blanks rfl h
    have hmark : ',' ∉ before ++ (name ++ trail) := by simp [hbefore, hcomma, htrail]
    have htrim : Text.trim (before ++ (name ++ trail)) = name :=
      Text.trimWhile_append_append hb hplain h
    rw [List.splitOn_eq_singleton hmark, listedNames, htrim, if_pos hn, listedNames]
  | @prose blanks prose c hne h hc hcne _ =>
    have hblanks : ',' ∉ blanks := not_mem_of_blanks rfl h
    have hmark : ',' ∉ before ++ (name ++ (blanks ++ [c])) := by
      simp [hbefore, hcomma, hblanks, hcne.symm]
    obtain ⟨first, pieces, hpieces⟩ := List.exists_cons_of_ne_nil (List.splitOn_ne_nil ',' prose)
    have hsplit := Text.splitOn_append_of_not_mem hmark prose
    rw [hpieces, List.modifyHead_cons] at hsplit
    simp only [List.append_assoc, List.cons_append, List.nil_append] at hsplit
    rw [hsplit, listedNames, isIdentifier_trim_name_append hb hn hne h hc,
      firstWord_name_append hb hn hne h]
    simp [hn]

/-- A list is read back, whatever follows it. -/
theorem listedNames_splitOn {list trail : Text} {names : List Text} (h : Lists list names)
    (ht : Trails trail) : listedNames isIdentifier ((list ++ trail).splitOn ',') = names := by
  induction h with
  | one hb hn hc =>
    rw [List.append_assoc]
    exact listedNames_name_append hb hn hc ht
  | @cons before name after text names hb hn hc ha _ ih =>
    obtain ⟨-, -, -, -, hplain⟩ := exists_cons_of_isIdentifier hn
    have hbefore : ',' ∉ before := not_mem_of_blanks rfl hb
    have hafter : ',' ∉ after := not_mem_of_blanks rfl ha
    have hmark : ',' ∉ before ++ (name ++ after) := by simp [hbefore, hc, hafter]
    have htrim : Text.trim (before ++ (name ++ after)) = name :=
      Text.trimWhile_append_append hb hplain ha
    rw [List.append_assoc, List.cons_append, List.splitOn_append_cons_self_of_not_mem hmark,
      listedNames, htrim, if_pos hn, ih]

/-- No line of the text but the first one starts with an at sign. -/
def Unmarked (t : Text) : Prop := t.IsChain fun a b => a = '\n' → b ≠ '@'

theorem unmarked_of_not_mem {t : Text} (h : '\n' ∉ t ∨ '@' ∉ t) : Unmarked t := by
  refine (List.pairwise_of_forall_mem_list fun a ha b hb hnewline hat => ?_).isChain
  rcases h with h | h
  · exact h (hnewline ▸ ha)
  · exact h (hat ▸ hb)

theorem unmarked_listed {before name after : Text} (hb : ∀ c ∈ before, Text.isBlank c = true)
    (hn : isIdentifier name = true) (ha : '@' ∉ after) : Unmarked (before ++ (name ++ after)) := by
  obtain ⟨d, rest, rfl, hd, hplain⟩ := exists_cons_of_isIdentifier hn
  have hnewline : '\n' ∉ d :: rest := by
    intro hmem
    exact absurd (hplain '\n' hmem) (by decide)
  refine List.isChain_append.mpr ⟨unmarked_of_not_mem (.inr (not_mem_of_blanks rfl hb)),
    List.isChain_append.mpr ⟨unmarked_of_not_mem (.inl hnewline), unmarked_of_not_mem (.inr ha),
      fun x _ y hy _ hat => ?_⟩, fun x _ y hy _ hat => ?_⟩
  · exact ha (hat ▸ List.mem_of_mem_head? hy)
  · obtain rfl : d = y := by simpa using hy
    rw [hat] at hd
    exact absurd hd (by decide)

/-- A marker that starts in the first part would hold a line that starts with an at sign there. -/
theorem not_marker_infix_append {s t : Text} (hs : Unmarked s) (hlast : s.getLast? ≠ some '\n')
    (ht : ¬ marker <:+: t) : ¬ marker <:+: s ++ t := by
  have hmarker : ¬ Unmarked marker := by
    intro h
    exact (List.isChain_cons_cons.mp h).1 rfl rfl
  intro h
  rcases List.infix_append_iff.mp h with h | h | ⟨u, v, huv, hu, hv⟩
  · have hchain : Unmarked marker := List.IsChain.infix hs h
    exact hmarker hchain
  · exact ht h
  · match u, huv with
    | [], huv => exact ht (by rw [huv]; exact hv.isInfix)
    | [c], huv =>
      obtain ⟨r, rfl⟩ := hu
      obtain rfl : '\n' = c := (List.cons.inj huv).1
      exact hlast (by simp)
    | c :: d :: u, huv =>
      obtain ⟨rfl, hrest⟩ := List.cons.inj huv
      obtain ⟨rfl, -⟩ := List.cons.inj hrest
      exact (List.isChain_cons_cons.mp (hs.suffix hu)).1 rfl rfl

theorem Trails.not_marker_infix {trail : Text} (h : Trails trail) : ¬ marker <:+: trail := by
  cases h with
  | blanks h =>
    intro hmarker
    have hat : '@' ∉ trail := not_mem_of_blanks rfl h
    exact hat (hmarker.subset (by decide))
  | prose _ _ _ _ hmarker => exact hmarker

theorem Lists.not_marker_infix {list trail : Text} {names : List Text} (h : Lists list names)
    (ht : ¬ marker <:+: trail) : ¬ marker <:+: list ++ trail := by
  induction h with
  | @one before name hb hn _ =>
    have hlisted := unmarked_listed hb hn (List.not_mem_nil : '@' ∉ [])
    rw [List.append_nil] at hlisted
    refine not_marker_infix_append hlisted (fun hlast => ?_) ht
    obtain ⟨d, rest, rfl, -, hplain⟩ := exists_cons_of_isIdentifier hn
    rw [List.getLast?_append_of_ne_nil _ (List.cons_ne_nil d rest)] at hlast
    exact absurd (hplain _ (List.mem_of_getLast? hlast)) (by decide)
  | @cons before name after text names hb hn _ ha _ ih =>
    have hafter : '@' ∉ after := not_mem_of_blanks rfl ha
    have hcomma : '@' ∉ after ++ [','] := by simp [hafter]
    have hlisted := unmarked_listed hb hn hcomma
    have hinfix := not_marker_infix_append hlisted (by simp [← List.append_assoc]) ih
    simpa using hinfix

/-- Directives after a text without one are cut into their lists with what follows them. -/
theorem cutAt_flatten {text : Text} {directives : List Text} {names : List (List Text)}
    (ht : ¬ marker <:+: text) (h : List.Forall₂ Writes directives names) :
    ∃ bodies, Text.cutAt marker (text ++ directives.flatten) = text :: bodies ∧
      bodies.map (fun body => listedNames isIdentifier (body.splitOn ',')) = names := by
  induction h generalizing text with
  | nil => exact ⟨[], by simp [Text.cutAt_of_not_infix ht], rfl⟩
  | @cons directive names directives rest hw _ ih =>
    obtain @⟨list, trail, _, hl, htrail⟩ := hw
    obtain ⟨bodies, hcut, hnames⟩ := ih (hl.not_marker_infix htrail.not_marker_infix)
    have happend : Text.cutAt marker (text ++ (marker ++ (list ++ trail ++ directives.flatten))) =
        Text.cutAt marker text ++ Text.cutAt marker (list ++ trail ++ directives.flatten) :=
      cutAt_append text _
    refine ⟨(list ++ trail) :: bodies, ?_, ?_⟩
    · rw [List.flatten_cons, List.append_assoc, happend, Text.cutAt_of_not_infix ht, hcut,
        List.singleton_append]
    · rw [List.map_cons, hnames, listedNames_splitOn hl htrail]

/-- Written directives are read back in order, repeated names kept, whatever stands before the first
one and after each list. -/
theorem documentedNames_flatten {intro : Text} {directives : List Text} {names : List (List Text)}
    (hi : ¬ marker <:+: intro) (h : List.Forall₂ Writes directives names) :
    documentedNames isIdentifier (intro ++ directives.flatten) = names.flatten := by
  obtain ⟨bodies, hcut, hnames⟩ := cutAt_flatten hi h
  rw [documentedNames, hcut, List.tail_cons, List.flatMap_def, hnames]

/-- The prose after the first list has a comma and a listed name in it. -/
theorem documentedNames_map_twice :
    documentedNames isIdentifier "Lists.\n@docs map ,\n (++) and so on, map too\n@docs map\n" =
      ["map", "(++)", "map"] := by
  have hprose : ¬ marker <:+: " " ++ 'a' :: "nd so on, map too".toList := by
    rw [← Text.hasPart_iff]
    decide
  have hnone : ∀ c ∈ ([] : Text), Text.isBlank c = true := List.forall_mem_nil _
  have hspace : ∀ c ∈ " ".toList, Text.isBlank c = true := List.all_eq_true.mp rfl
  have hbreak : ∀ c ∈ "\n".toList, Text.isBlank c = true := List.all_eq_true.mp rfl
  have hindent : ∀ c ∈ "\n ".toList, Text.isBlank c = true := List.all_eq_true.mp rfl
  have hfirst : Writes (marker ++ ([] ++ ("map".toList ++ " ".toList) ++
      ',' :: ("\n ".toList ++ "(++)".toList) ++ (" ".toList ++ 'a' :: "nd so on, map too".toList)))
      ["map", "(++)"] :=
    .mk (.cons hnone (by decide) (by decide) hspace (.one hindent (by decide) (by decide)))
      (.prose (by decide) hspace (by decide) (by decide) hprose)
  have hsecond : Writes (marker ++ ([] ++ "map".toList ++ "\n".toList)) ["map"] :=
    .mk (.one hnone (by decide) (by decide)) (.blanks hbreak)
  have hintro : ¬ marker <:+: "Lists.".toList := by
    rw [← Text.hasPart_iff]
    decide
  exact documentedNames_flatten hintro (.cons hfirst (.cons hsecond .nil))

end DocIndex.Directive
