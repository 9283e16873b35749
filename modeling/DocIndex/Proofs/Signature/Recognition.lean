import DocIndex.Proofs.Signature.Lexeme
import DocIndex.Proofs.Signature.Reading

/-!
The reader of signatures accepts exactly what the grammar derives: phrase by phrase, then by
induction on the levels of nested types.
-/
namespace DocIndex.Ty

open Token

theorem constructor_begins {levels : Nat} : Begins (Constructor levels) := by
  intro ts name h
  cases h with
  | bare h => exact ⟨_, _, rfl, rfl⟩
  | enclosed h => exact ⟨_, _, rfl, rfl⟩

section

variable {inner : List Token → Reading (Ty × List Token)} {Nested : List Token → Ty → Prop}
  {levels : Nat}

theorem atom_begins : Begins (Atom Nested) := by
  intro ts t h
  cases h <;> exact ⟨_, _, rfl, rfl⟩

theorem applied_begins : Begins (Applied Nested levels) := by
  intro ts t h
  cases h with
  | atom h => exact atom_begins h
  | apply h _ _ =>
    obtain ⟨u, us, rfl, hu⟩ := constructor_begins h
    exact ⟨u, _, rfl, hu⟩

theorem arrows_begins : Begins (Arrows Nested levels) := by
  intro ts t h
  cases h with
  | one h => exact applied_begins h
  | function h _ => exact applied_begins.separated h

theorem field_begins : Begins (Field Nested) := by
  intro ts f h
  cases h with
  | mk h => exact ⟨_, _, rfl, rfl⟩

def endsType (u : Token) : Bool := !u.startsAtom && u ≠ .arrow

theorem reads_field (h : Reads inner Nested endsType) :
    Reads (readField inner) (Field Nested) endsType := by
  constructor
  intro ts f rest
  simp only [readField, Reading.bind_eq_ok_iff, Prod.exists, expectIdent_eq_ok_iff,
    expect_eq_ok_iff]
  constructor
  · rintro ⟨name, -, rfl, -, after, rfl, t, rest', ht, hf⟩
    obtain ⟨rfl, rfl⟩ : (name, t) = f ∧ rest' = rest := by simpa using hf
    obtain ⟨front, rfl, hphrase, hend⟩ := h.eq_ok_iff.mp ht
    exact ⟨.ident name :: .colon :: front, rfl, .mk hphrase, hend⟩
  · rintro ⟨front, rfl, hphrase, hend⟩
    cases hphrase with
    | mk hphrase =>
      rename_i name ts t
      have htype : inner (ts ++ rest) = .ok (t, rest) := h.eq_ok_iff.mpr ⟨ts, rfl, hphrase, hend⟩
      exact ⟨name, _, rfl, (), ts ++ rest, rfl, t, rest, htype, rfl⟩

theorem separated_cases {α : Type} {separator : Token} {Item : List Token → α → Prop}
    {ts : List Token} {xs : List α} (h : Separated separator Item ts xs) :
    (∃ x, xs = [x] ∧ Item ts x) ∨ 2 ≤ xs.length := by
  cases h with
  | one h => exact .inl ⟨_, rfl, h⟩
  | cons _ h =>
    refine .inr ?_
    cases h <;> simp

theorem ofParenthesized_of_two_le {items : List Ty} (h : 2 ≤ items.length) :
    ofParenthesized items = .tuple items := by
  match items, h with
  | _ :: _ :: _, _ => rfl

theorem readParenthesized_of_startsAtom {u : Token} (hu : u.startsAtom = true) (ts : List Token) :
    readParenthesized inner (u :: ts) = (do
      let (items, rest) ← readSeparated .comma inner ((u :: ts).length + 1) (u :: ts)
      let ((), rest) ← expect .closeParen rest
      .ok (ofParenthesized items, rest)) := by
  cases u <;> first | rfl | cases hu

theorem readParenthesized_eq_ok_iff (h : Reads inner Nested endsType) (hb : Begins Nested)
    {ts rest : List Token} {t : Ty} :
    readParenthesized inner ts = .ok (t, rest) ↔
      ∃ front, ts = front ++ rest ∧ Atom Nested (.openParen :: front) t := by
  have hitems : Reads (fun us => readSeparated .comma inner (us.length + 1) us)
      (Separated .comma Nested) (fun u => endsType u && u ≠ .comma) := reads_separated h hb rfl
  constructor
  · intro hread
    unfold readParenthesized at hread
    split at hread
    next after =>
      obtain ⟨rfl, rfl⟩ : tuple [] = t ∧ after = rest := by simpa using hread
      exact ⟨[.closeParen], rfl, .unit⟩
    next =>
      simp only [Reading.bind_eq_ok_iff, Prod.exists, expect_eq_ok_iff] at hread
      obtain ⟨items, after, hread, -, after', rfl, hresult⟩ := hread
      obtain ⟨rfl, rfl⟩ : ofParenthesized items = t ∧ after' = rest := by simpa using hresult
      obtain ⟨front, rfl, hphrase, -⟩ := hitems.eq_ok_iff.mp hread
      refine ⟨front ++ [.closeParen], by simp, ?_⟩
      obtain ⟨x, rfl, hx⟩ | hlength := separated_cases hphrase
      · exact .enclosed hx
      · rw [ofParenthesized_of_two_le hlength]
        exact .tuple hphrase hlength
  · have hclose : ∀ {us : List Token} {items : List Ty}, Separated .comma Nested us items →
        readParenthesized inner (us ++ [.closeParen] ++ rest) =
          .ok (ofParenthesized items, rest) := by
      intro us items hphrase
      obtain ⟨u, vs, rfl, hu⟩ := hb.separated hphrase
      rw [List.cons_append, List.cons_append, readParenthesized_of_startsAtom hu]
      simp only [Reading.bind_eq_ok_iff, Prod.exists, expect_eq_ok_iff]
      exact ⟨items, .closeParen :: rest,
        hitems.eq_ok_iff.mpr ⟨u :: vs, by simp, hphrase, ends_cons.mpr rfl⟩, (), rest, rfl, rfl⟩
    rintro ⟨front, rfl, hphrase⟩
    cases hphrase with
    | unit => rfl
    | enclosed hx => exact hclose (.one hx)
    | tuple hphrase hlength =>
      rw [hclose hphrase, ofParenthesized_of_two_le hlength]

theorem field_begins_colon {ts : List Token} {fields : List (Text × Ty)}
    (h : Separated .comma (Field Nested) ts fields) :
    ∃ name us, ts = .ident name :: .colon :: us := by
  cases h with
  | one h => cases h with | mk _ => exact ⟨_, _, rfl⟩
  | cons h _ => cases h with | mk _ => exact ⟨_, _, rfl⟩

theorem readBase_cases {ts rest : List Token} {base : Option Text}
    (h : readBase ts = .ok (base, rest)) :
    (base = none ∧ ts = rest) ∨ ∃ name, base = some name ∧ ts = .ident name :: .pipe :: rest := by
  unfold readBase at h
  split at h
  next u after =>
    simp only [Reading.bind_eq_ok_iff, Prod.exists, expectIdent_eq_ok_iff] at h
    obtain ⟨name, rest', hident, h⟩ := h
    obtain ⟨rfl, rfl⟩ : some name = base ∧ after = rest := by simpa using h
    obtain ⟨rfl, -⟩ : u = .ident name ∧ [] = rest' := by simpa using hident
    exact .inr ⟨name, rfl, rfl⟩
  next =>
    obtain ⟨rfl, rfl⟩ : none = base ∧ ts = rest := by simpa using h
    exact .inl ⟨rfl, rfl⟩

/-- The fields of a record and its closing brace, after the variable that it extends. -/
theorem readFields_eq_ok_iff (h : Reads inner Nested endsType) {base : Option Text}
    {ts rest : List Token} {t : Ty} :
    (do
      let (fields, rest) ← readSeparated .comma (readField inner) (ts.length + 1) ts
      let ((), rest) ← expect .closeBrace rest
      Except.ok (record fields base, rest) : Reading (Ty × List Token)) = .ok (t, rest) ↔
      ∃ front fields, ts = front ++ .closeBrace :: rest ∧
        Separated .comma (Field Nested) front fields ∧ t = record fields base := by
  have hfields : Reads (fun us => readSeparated .comma (readField inner) (us.length + 1) us)
      (Separated .comma (Field Nested)) (fun u => endsType u && u ≠ .comma) :=
    reads_separated (reads_field h) field_begins rfl
  simp only [Reading.bind_eq_ok_iff, Prod.exists, expect_eq_ok_iff]
  constructor
  · rintro ⟨fields, after, hread, -, after', rfl, hresult⟩
    obtain ⟨rfl, rfl⟩ : record fields base = t ∧ after' = rest := by simpa using hresult
    obtain ⟨front, rfl, hphrase, -⟩ := hfields.eq_ok_iff.mp hread
    exact ⟨front, fields, rfl, hphrase, rfl⟩
  · rintro ⟨front, fields, rfl, hphrase, rfl⟩
    exact ⟨fields, .closeBrace :: rest,
      hfields.eq_ok_iff.mpr ⟨front, rfl, hphrase, ends_cons.mpr rfl⟩, (), rest, rfl, rfl⟩

theorem readRecord_eq_ok_iff (h : Reads inner Nested endsType) {ts rest : List Token} {t : Ty} :
    readRecord inner ts = .ok (t, rest) ↔
      ∃ front, ts = front ++ rest ∧ Atom Nested (.openBrace :: front) t := by
  constructor
  · intro hread
    unfold readRecord at hread
    split at hread
    next after =>
      obtain ⟨rfl, rfl⟩ : record [] none = t ∧ after = rest := by simpa using hread
      exact ⟨[.closeBrace], rfl, .emptyRecord⟩
    next =>
      obtain ⟨⟨base, after⟩, hbase, hread⟩ := Reading.bind_eq_ok_iff.mp hread
      obtain ⟨front, fields, rfl, hphrase, rfl⟩ := (readFields_eq_ok_iff h).mp hread
      obtain ⟨rfl, rfl⟩ | ⟨name, rfl, rfl⟩ := readBase_cases hbase
      · exact ⟨front ++ [.closeBrace], by simp, .record hphrase⟩
      · exact ⟨.ident name :: .pipe :: (front ++ [.closeBrace]), by simp, .extension hphrase⟩
  · rintro ⟨front, rfl, hphrase⟩
    cases hphrase with
    | emptyRecord => rfl
    | record hphrase =>
      rename_i ts fields
      obtain ⟨name, us, rfl⟩ := field_begins_colon hphrase
      exact (readFields_eq_ok_iff h).mpr
        ⟨.ident name :: .colon :: us, fields, by simp, hphrase, rfl⟩
    | extension hphrase =>
      rename_i name ts fields
      exact (readFields_eq_ok_iff h).mpr ⟨ts, fields, by simp, hphrase, rfl⟩

theorem reads_atom (h : Reads inner Nested endsType) (hb : Begins Nested) :
    Reads (readAtom inner) (Atom Nested) fun _ => true := by
  constructor
  intro ts t rest
  have hends : Ends (fun _ => true) rest := fun _ _ => rfl
  simp only [hends, and_true]
  constructor
  · intro hread
    unfold readAtom at hread
    split at hread
    next => cases hread
    next name after =>
      obtain ⟨rfl, rfl⟩ : ofIdent name = t ∧ after = rest := by simpa using hread
      refine ⟨[.ident name], rfl, ?_⟩
      cases hname : namesConstructor name with
      | true => simpa [ofIdent, hname] using Atom.constructor hname
      | false => simpa [ofIdent, hname] using Atom.var hname
    next after =>
      obtain ⟨front, rfl, hphrase⟩ := (readParenthesized_eq_ok_iff h hb).mp hread
      exact ⟨.openParen :: front, rfl, hphrase⟩
    next after =>
      obtain ⟨front, rfl, hphrase⟩ := (readRecord_eq_ok_iff h).mp hread
      exact ⟨.openBrace :: front, rfl, hphrase⟩
    next => cases hread
  · rintro ⟨front, rfl, hphrase⟩
    obtain ⟨u, us, rfl, hu⟩ := atom_begins hphrase
    cases u with
    | ident name =>
      cases hphrase with
      | var hname => simp [readAtom, ofIdent, hname]
      | constructor hname => simp [readAtom, ofIdent, hname]
    | openParen => exact (readParenthesized_eq_ok_iff h hb).mpr ⟨us, rfl, hphrase⟩
    | openBrace => exact (readRecord_eq_ok_iff h).mpr ⟨us, rfl, hphrase⟩
    | _ => cases hu

def endsApplied (u : Token) : Bool := !u.startsAtom

/-- Atoms after a constructor are its arguments; no other atom is followed by one. -/
theorem applied_of_readApplied (hatom : Reads (readAtom inner) (Atom Nested) fun _ => true)
    (hc : ∀ {ts name}, Atom Nested ts (.apply name []) → Constructor levels ts name)
    {ts rest : List Token} {t : Ty} (h : readApplied inner ts = .ok (t, rest)) :
    ∃ front, ts = front ++ rest ∧ Applied Nested levels front t ∧ Ends endsApplied rest := by
  simp only [readApplied, Reading.bind_eq_ok_iff, Prod.exists] at h
  obtain ⟨head, after, hhead, hread⟩ := h
  obtain ⟨front, rfl, hphrase, -⟩ := hatom.eq_ok_iff.mp hhead
  cases after with
  | nil =>
    obtain ⟨rfl, rfl⟩ : head = t ∧ [] = rest := by simpa using hread
    exact ⟨front, rfl, .atom hphrase, ends_nil _⟩
  | cons u after =>
    by_cases hu : u.startsAtom = true
    · simp only [hu, if_true] at hread
      split at hread
      next name =>
        simp only [Reading.bind_eq_ok_iff, Prod.exists] at hread
        obtain ⟨args, after', hargs, hresult⟩ := hread
        obtain ⟨rfl, rfl⟩ : apply name args = t ∧ after' = rest := by simpa using hresult
        obtain ⟨more, hmore, hadjacent, hend⟩ :=
          (readAtoms_eq_ok_iff hatom atom_begins (by simp)).mp hargs
        have hne : args ≠ [] := by
          rintro rfl
          cases hadjacent with
          | nil =>
            rw [List.nil_append] at hmore
            rw [← hmore, ends_cons, hu] at hend
            cases hend
        exact ⟨front ++ more, by simp [hmore], .apply (hc hphrase) hadjacent hne, hend⟩
      next => cases hread
      next => cases hread
    · simp only [hu] at hread
      obtain ⟨rfl, rfl⟩ : head = t ∧ u :: after = rest := by simpa using hread
      exact ⟨front, rfl, .atom hphrase, by simp [endsApplied, hu]⟩

theorem readApplied_of_applied (hatom : Reads (readAtom inner) (Atom Nested) fun _ => true)
    (hc : ∀ {ts name}, Constructor levels ts name → Atom Nested ts (.apply name []))
    {front rest : List Token} {t : Ty} (h : Applied Nested levels front t)
    (hend : Ends endsApplied rest) : readApplied inner (front ++ rest) = .ok (t, rest) := by
  simp only [readApplied, Reading.bind_eq_ok_iff, Prod.exists]
  cases h with
  | atom hphrase =>
    refine ⟨t, rest, hatom.eq_ok_iff.mpr ⟨front, rfl, hphrase, fun _ _ => rfl⟩, ?_⟩
    cases rest with
    | nil => rfl
    | cons u rest =>
      have hu : u.startsAtom = false := by simpa [endsApplied] using hend
      simp [hu]
  | apply hconstructor hadjacent hne =>
    rename_i ts us name args
    have hhead : readAtom inner (ts ++ us ++ rest) = .ok (.apply name [], us ++ rest) :=
      hatom.eq_ok_iff.mpr ⟨ts, by simp, hc hconstructor, fun _ _ => rfl⟩
    refine ⟨_, _, hhead, ?_⟩
    obtain ⟨u, vs, rfl, hu⟩ : ∃ u vs, us = u :: vs ∧ u.startsAtom = true := by
      cases hadjacent with
      | nil => exact absurd rfl hne
      | cons hx _ =>
        obtain ⟨u, vs, rfl, hu⟩ := atom_begins hx
        exact ⟨u, _, rfl, hu⟩
    simp only [List.cons_append, hu, if_true, Reading.bind_eq_ok_iff, Prod.exists]
    exact ⟨args, rest, (readAtoms_eq_ok_iff hatom atom_begins (by simp)).mpr
      ⟨u :: vs, rfl, hadjacent, hend⟩, rfl⟩

theorem reads_applied (h : Reads inner Nested endsType) (hb : Begins Nested)
    (hc : ∀ {ts name}, Atom Nested ts (.apply name []) ↔ Constructor levels ts name) :
    Reads (readApplied inner) (Applied Nested levels) endsApplied := by
  have hatom : Reads (readAtom inner) (Atom Nested) fun _ => true := reads_atom h hb
  constructor
  intro ts t rest
  constructor
  · exact applied_of_readApplied hatom hc.mp
  · rintro ⟨front, rfl, hphrase, hend⟩
    exact readApplied_of_applied hatom hc.mpr hphrase hend

theorem ofArrows_of_ne_nil {args : List Ty} (h : args ≠ []) (result : Ty) :
    ofArrows args result = .function args result := by
  cases args with
  | nil => exact absurd rfl h
  | cons t ts => rfl

theorem reads_arrows (h : Reads (readApplied inner) (Applied Nested levels) endsApplied) :
    Reads (readArrows inner) (Arrows Nested levels) endsType := by
  have hparts : Reads (fun ts => readSeparated .arrow (readApplied inner) (ts.length + 1) ts)
      (Separated .arrow (Applied Nested levels)) endsType := reads_separated h applied_begins rfl
  constructor
  intro ts t rest
  simp only [readArrows, Reading.bind_eq_ok_iff, Prod.exists]
  constructor
  · rintro ⟨parts, after, hread, hresult⟩
    obtain ⟨front, rfl, hphrase, hend⟩ := hparts.eq_ok_iff.mp hread
    split at hresult
    next result hlast =>
      obtain ⟨rfl, rfl⟩ : ofArrows parts.dropLast result = t ∧ after = rest := by
        simpa using hresult
      obtain ⟨args, rfl⟩ := List.getLast?_eq_some_iff.mp hlast
      rw [List.dropLast_concat]
      refine ⟨front, rfl, ?_, hend⟩
      by_cases hne : args = []
      · subst hne
        obtain ⟨x, hx, hphrase⟩ | hlength := separated_cases hphrase
        · obtain rfl : result = x := by simpa using hx
          exact .one hphrase
        · simp at hlength
      · rw [ofArrows_of_ne_nil hne]
        exact .function hphrase hne
    next => cases hresult
  · rintro ⟨front, rfl, hphrase, hend⟩
    cases hphrase with
    | one hphrase =>
      exact ⟨[t], rest, hparts.eq_ok_iff.mpr ⟨front, rfl, .one hphrase, hend⟩, rfl⟩
    | function hphrase hne =>
      rename_i args result
      refine ⟨args ++ [result], rest, hparts.eq_ok_iff.mpr ⟨front, rfl, hphrase, hend⟩, ?_⟩
      simp [ofArrows_of_ne_nil hne]

end

theorem derives_begins {levels : Nat} : Begins (Derives levels) := by
  intro ts t h
  cases levels with
  | zero => cases h
  | succ levels => exact arrows_begins h

/-- An atom that is a constructor without arguments is its name in parentheses. -/
theorem atom_constructor_iff {levels : Nat} {ts : List Token} {name : Text} :
    Atom (Derives levels) ts (.apply name []) ↔ Constructor levels ts name := by
  constructor
  · intro h
    induction levels generalizing ts with
    | zero =>
      cases h with
      | constructor h => exact .bare h
      | enclosed h => cases h
    | succ levels ih =>
      cases h with
      | constructor h => exact .bare h
      | enclosed h =>
        cases h with
        | one h =>
          cases h with
          | atom h => exact .enclosed (ih h)
          | apply _ _ hne => exact absurd rfl hne
  · intro h
    induction h with
    | bare h => exact .constructor h
    | enclosed _ ih => exact .enclosed (.one (.atom ih))

/-- The reader takes a type off the tokens if it is one of the grammar and cannot go on. -/
theorem reads_derives (levels : Nat) : Reads (readNested levels) (Derives levels) endsType := by
  induction levels with
  | zero =>
    constructor
    intro ts t rest
    simp [readNested, Derives]
  | succ levels ih =>
    exact reads_arrows (reads_applied ih derives_begins atom_constructor_iff)

theorem ofTokens_eq_ok_iff {ts : List Token} {t : Ty} :
    ofTokens ts = .ok t ↔ Derives SyntaxError.maxDepth ts t := by
  simp only [ofTokens, Reading.bind_eq_ok_iff, Prod.exists]
  constructor
  · rintro ⟨u, rest, hread, hresult⟩
    obtain ⟨front, rfl, hphrase, -⟩ := (reads_derives _).eq_ok_iff.mp hread
    cases rest with
    | nil =>
      obtain rfl : u = t := by simpa using hresult
      simpa using hphrase
    | cons v rest => cases hresult
  · intro h
    exact ⟨t, [], (reads_derives _).eq_ok_iff.mpr ⟨ts, by simp, h, ends_nil _⟩, rfl⟩

theorem derives_unique {m n : Nat} {ts : List Token} {t u : Ty} (ht : Derives m ts t)
    (hu : Derives n ts u) : t = u := by
  have hleft : readNested (max m n) ts = .ok (t, []) :=
    (reads_derives _).eq_ok_iff.mpr ⟨ts, by simp, ht.mono (Nat.le_max_left m n), ends_nil _⟩
  have hright : readNested (max m n) ts = .ok (u, []) :=
    (reads_derives _).eq_ok_iff.mpr ⟨ts, by simp, hu.mono (Nat.le_max_right m n), ends_nil _⟩
  rw [hleft] at hright
  exact congrArg Prod.fst (Except.ok.inj hright)

theorem scans_unique {text : Text} {ts us : List Token} (ht : Scans text ts)
    (hu : Scans text us) : ts = us := by
  have hleft := scan_of_scans ht
  rw [scan_of_scans hu] at hleft
  exact (Except.ok.inj hleft).symm

theorem ofText_eq_ok_iff {text : Text} {t : Ty} :
    ofText text = .ok t ↔ ∃ ts, Scans text ts ∧ Derives SyntaxError.maxDepth ts t := by
  simp only [ofText, Reading.bind_eq_ok_iff, scan_eq_ok_iff, ofTokens_eq_ok_iff]

/-- A text is accepted as a type exactly if the tokens it is written with derive the type in at
most 64 levels. The tokens of a text are determined by it and, whatever number of levels is allowed,
so is the type that tokens derive. -/
theorem ofText_accepts_grammar :
    (∀ text t, ofText text = .ok t ↔ ∃ ts, Scans text ts ∧ Derives 64 ts t) ∧
    (∀ text ts us, Scans text ts → Scans text us → ts = us) ∧
    ∀ m n ts t u, Derives m ts t → Derives n ts u → t = u :=
  ⟨fun _ _ => ofText_eq_ok_iff, fun _ _ _ => scans_unique, fun _ _ _ _ _ => derives_unique⟩

/-- Two levels are enough for a constructor in parentheses of its own. -/
theorem ofText_accepts_enclosed_constructor :
    ofText "(List) a" = .ok (.apply "List" [.var "a"]) ∧
      (∀ us, Scans "(List) a" us → us = [.openParen, .ident "List", .closeParen, .ident "a"]) ∧
      ∀ u, Derives 2 [.openParen, .ident "List", .closeParen, .ident "a"] u →
        u = .apply "List" [.var "a"] := by
  obtain ⟨haccepts, hscans, hderives⟩ := ofText_accepts_grammar
  have hscan : Scans "(List) a" [.openParen, .ident "List", .closeParen, .ident "a"] :=
    scans_of_scan (by decide +kernel)
  have hconstructor : Constructor 1 [.openParen, .ident "List", .closeParen] "List" :=
    .enclosed (.bare (by decide +kernel))
  have hvar : Atom (Derives 1) [.ident "a"] (.var "a") := .var (by decide +kernel)
  have htype : Derives 2 [.openParen, .ident "List", .closeParen, .ident "a"]
      (.apply "List" [.var "a"]) :=
    .one (.apply hconstructor (.cons hvar .nil) (List.cons_ne_nil _ _))
  exact ⟨(haccepts _ _).mpr ⟨_, hscan, htype.mono (by decide)⟩,
    fun us hus => hscans _ us _ hus hscan, fun u hu => hderives 2 2 _ u _ hu htype⟩

end DocIndex.Ty
