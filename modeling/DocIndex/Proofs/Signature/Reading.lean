import DocIndex.Proofs.Signature.Grammar
import Mathlib.Data.List.Basic

/-!
Readers and phrases: a reader takes a phrase off the tokens exactly if what follows cannot belong to
it.
-/
namespace DocIndex

theorem Reading.bind_eq_ok_iff {α β : Type} {x : Reading α} {f : α → Reading β} {b : β} :
    (x >>= f) = .ok b ↔ ∃ a, x = .ok a ∧ f a = .ok b := by
  cases x <;> simp [bind, Except.bind]

namespace Token

theorem expect_eq_ok_iff {t : Token} {ts rest : List Token} {x : Unit} :
    expect t ts = .ok (x, rest) ↔ ts = t :: rest := by
  cases ts with
  | nil => simp [expect]
  | cons u ts => by_cases h : u = t <;> simp [expect, h]

theorem expectIdent_eq_ok_iff {ts rest : List Token} {name : Text} :
    expectIdent ts = .ok (name, rest) ↔ ts = .ident name :: rest := by
  cases ts with
  | nil => simp [expectIdent]
  | cons u ts => cases u <;> simp [expectIdent]

/-- What is left begins with one of these tokens or is nothing. -/
def Ends (stop : Token → Bool) (rest : List Token) : Prop := ∀ u ∈ rest.head?, stop u = true

@[simp] theorem ends_nil (stop : Token → Bool) : Ends stop [] := by simp [Ends]

@[simp] theorem ends_cons {stop : Token → Bool} {u : Token} {rest : List Token} :
    Ends stop (u :: rest) ↔ stop u = true := by simp [Ends]

/-- The reader takes a phrase off the tokens exactly if what is left ends it. -/
structure Reads {α : Type} (read : List Token → Reading (α × List Token))
    (Phrase : List Token → α → Prop) (stop : Token → Bool) : Prop where
  eq_ok_iff : ∀ {ts x rest}, read ts = .ok (x, rest) ↔
    ∃ front, ts = front ++ rest ∧ Phrase front x ∧ Ends stop rest

def Begins {α : Type} (Phrase : List Token → α → Prop) : Prop :=
  ∀ {ts x}, Phrase ts x → ∃ u us, ts = u :: us ∧ u.startsAtom = true

variable {α : Type} {item : List Token → Reading (α × List Token)}
  {Phrase : List Token → α → Prop} {stop : Token → Bool} {separator : Token}

theorem Begins.separated (h : Begins Phrase) : Begins (Ty.Separated separator Phrase) := by
  intro ts xs hs
  cases hs with
  | one hx => exact h hx
  | cons hx _ =>
    obtain ⟨u, us, rfl, hu⟩ := h hx
    exact ⟨u, _, rfl, hu⟩

/-- The reader of separated items, given enough fuel. -/
theorem readSeparated_eq_ok_iff (hread : Reads item Phrase stop) (hbegin : Begins Phrase)
    (hstop : stop separator = true) {fuel : Nat} {ts rest : List Token} {xs : List α}
    (hfuel : ts.length < fuel) :
    readSeparated separator item fuel ts = .ok (xs, rest) ↔ ∃ front, ts = front ++ rest ∧
      Ty.Separated separator Phrase front xs ∧ Ends (fun u => stop u && u ≠ separator) rest := by
  induction fuel generalizing ts xs rest with
  | zero => omega
  | succ fuel ih =>
    simp only [readSeparated, Reading.bind_eq_ok_iff, Prod.exists]
    constructor
    · rintro ⟨x, after, hx, h⟩
      obtain ⟨front, rfl, hphrase, hend⟩ := hread.eq_ok_iff.mp hx
      obtain ⟨u, us, rfl, -⟩ := hbegin hphrase
      cases after with
      | nil =>
        obtain ⟨rfl, rfl⟩ : [x] = xs ∧ [] = rest := by simpa using h
        exact ⟨u :: us, rfl, .one hphrase, ends_nil _⟩
      | cons v after =>
        have hv : stop v = true := ends_cons.mp hend
        by_cases hsep : v = separator
        · subst hsep
          simp only [if_true, Reading.bind_eq_ok_iff, Prod.exists] at h
          obtain ⟨ys, rest', hys, h⟩ := h
          obtain ⟨rfl, rfl⟩ : x :: ys = xs ∧ rest' = rest := by simpa using h
          have hlt : after.length < fuel := by
            simp only [List.length_append, List.length_cons] at hfuel
            omega
          obtain ⟨more, rfl, hmore, hend⟩ := (ih hlt).mp hys
          exact ⟨(u :: us) ++ v :: more, by simp, .cons hphrase hmore, hend⟩
        · simp only [hsep, if_false] at h
          obtain ⟨rfl, rfl⟩ : [x] = xs ∧ v :: after = rest := by simpa using h
          exact ⟨u :: us, rfl, .one hphrase, by simp [hv, hsep]⟩
    · rintro ⟨front, rfl, hphrase, hend⟩
      cases hphrase with
      | one hx =>
        rename_i x
        have hend' : Ends stop rest := fun u hu => (Bool.and_eq_true_iff.mp (hend u hu)).1
        refine ⟨x, rest, hread.eq_ok_iff.mpr ⟨front, rfl, hx, hend'⟩, ?_⟩
        cases rest with
        | nil => rfl
        | cons v rest =>
          have hsep : v ≠ separator := by
            simpa using (Bool.and_eq_true_iff.mp (ends_cons.mp hend)).2
          simp [hsep]
      | cons hx hmore =>
        rename_i front more x ys
        obtain ⟨u, us, rfl, -⟩ := hbegin hx
        have hfirst : item ((u :: us) ++ separator :: more ++ rest) =
            .ok (x, separator :: (more ++ rest)) :=
          hread.eq_ok_iff.mpr ⟨u :: us, by simp, hx, by simp [hstop]⟩
        refine ⟨x, separator :: (more ++ rest), hfirst, ?_⟩
        have hlt : (more ++ rest).length < fuel := by
          simp only [List.length_append, List.length_cons] at hfuel ⊢
          omega
        simp only [if_true, Reading.bind_eq_ok_iff, Prod.exists]
        exact ⟨ys, rest, (ih hlt).mpr ⟨more, rfl, hmore, hend⟩, rfl⟩

theorem reads_separated (hread : Reads item Phrase stop) (hbegin : Begins Phrase)
    (hstop : stop separator = true) :
    Reads (fun ts => readSeparated separator item (ts.length + 1) ts)
      (Ty.Separated separator Phrase) (fun u => stop u && u ≠ separator) where
  eq_ok_iff {ts _ _} := readSeparated_eq_ok_iff hread hbegin hstop (Nat.lt_succ_self ts.length)

theorem adjacent_nil_iff (hbegin : Begins Phrase) {xs : List α} :
    Ty.Adjacent Phrase [] xs ↔ xs = [] := by
  constructor
  · intro h
    generalize hts : ([] : List Token) = ts at h
    cases h with
    | nil => rfl
    | cons hx _ =>
      obtain ⟨u, us, rfl, -⟩ := hbegin hx
      cases hts
  · rintro rfl
    exact .nil

theorem readAtoms_eq_ok_iff (hread : Reads item Phrase fun _ => true) (hbegin : Begins Phrase)
    {fuel : Nat} {ts rest : List Token} {xs : List α} (hfuel : ts.length ≤ fuel) :
    readAtoms item fuel ts = .ok (xs, rest) ↔ ∃ front, ts = front ++ rest ∧
      Ty.Adjacent Phrase front xs ∧ Ends (fun u => !u.startsAtom) rest := by
  have hempty : ∀ {xs rest}, Except.ok ([], []) = (.ok (xs, rest) : Reading (List α × _)) ↔
      ∃ front, [] = front ++ rest ∧ Ty.Adjacent Phrase front xs ∧
        Ends (fun u => !u.startsAtom) rest := by
    intro xs rest
    constructor
    · intro h
      obtain ⟨rfl, rfl⟩ : [] = xs ∧ [] = rest := by simpa using h
      exact ⟨[], rfl, .nil, ends_nil _⟩
    · rintro ⟨front, hfront, hphrase, -⟩
      obtain ⟨rfl, rfl⟩ := List.append_eq_nil_iff.mp hfront.symm
      rw [(adjacent_nil_iff hbegin).mp hphrase]
  induction fuel generalizing ts xs rest with
  | zero =>
    obtain rfl : ts = [] := List.length_eq_zero_iff.mp (by omega)
    exact hempty
  | succ fuel ih =>
    cases ts with
    | nil => exact hempty
    | cons u ts =>
      rw [readAtoms]
      by_cases hu : u.startsAtom = true
      · simp only [hu, if_true, Reading.bind_eq_ok_iff, Prod.exists]
        constructor
        · rintro ⟨x, after, hx, ys, rest', hys, h⟩
          obtain ⟨rfl, rfl⟩ : x :: ys = xs ∧ rest' = rest := by simpa using h
          obtain ⟨front, hfront, hphrase, -⟩ := hread.eq_ok_iff.mp hx
          obtain ⟨v, vs, rfl, -⟩ := hbegin hphrase
          have hlt : after.length ≤ fuel := by
            have hlength := congrArg List.length hfront
            simp only [List.length_append, List.length_cons] at hlength hfuel
            omega
          obtain ⟨more, rfl, hmore, hend⟩ := (ih hlt).mp hys
          exact ⟨(v :: vs) ++ more, by simp [hfront], .cons hphrase hmore, hend⟩
        · rintro ⟨front, hfront, hphrase, hend⟩
          cases hphrase with
          | nil =>
            rw [List.nil_append] at hfront
            rw [← hfront, ends_cons, hu] at hend
            cases hend
          | cons hx hmore =>
            rename_i first more x ys
            obtain ⟨v, vs, rfl, -⟩ := hbegin hx
            have hlt : (more ++ rest).length ≤ fuel := by
              have hlength := congrArg List.length hfront
              simp only [List.length_append, List.length_cons] at hlength hfuel ⊢
              omega
            have hfirst : item (u :: ts) = .ok (x, more ++ rest) :=
              hread.eq_ok_iff.mpr ⟨v :: vs, by simp [hfront], hx, fun _ _ => rfl⟩
            exact ⟨x, more ++ rest, hfirst, ys, rest,
              (ih hlt).mpr ⟨more, rfl, hmore, hend⟩, rfl⟩
      · simp only [hu]
        constructor
        · intro h
          obtain ⟨rfl, rfl⟩ : [] = xs ∧ u :: ts = rest := by simpa using h
          exact ⟨[], rfl, .nil, by simp [hu]⟩
        · rintro ⟨front, hfront, hphrase, -⟩
          cases hphrase with
          | nil => simp [hfront]
          | cons hx _ =>
            obtain ⟨v, vs, rfl, hv⟩ := hbegin hx
            simp only [List.cons_append, List.cons.injEq] at hfront
            exact absurd (hfront.1 ▸ hv) hu

end Token

end DocIndex
