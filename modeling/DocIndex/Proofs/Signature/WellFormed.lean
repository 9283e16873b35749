import DocIndex.Proofs.Signature.Flat
import DocIndex.Proofs.Signature.Grammar
import DocIndex.Proofs.Signature.Lexeme
import DocIndex.Proofs.Text.Pieces
import DocIndex.Signature.Canonical

/-!
Types that signatures can display. What the grammar derives is one of them, and renaming variables
to the canonical names keeps it one.
-/
namespace DocIndex.Ty

open Token

/-- A type whose display is a signature of at most so many levels of nested types, the outermost
one counted. Names are identifiers of their kind, functions have arguments, no tuple has one item,
and no record extends a variable without fields. A level opens for an item, for the type of a field,
and for an argument that is displayed in parentheses. -/
inductive WellFormed : Nat → Ty → Prop where
  | var {levels : Nat} {name : Text} (h : IsIdent name) (hn : namesConstructor name = false) :
      WellFormed (levels + 1) (.var name)
  | apply {levels : Nat} {head : Text} {args : List Ty} (h : IsIdent head)
      (hn : namesConstructor head = true)
      (hs : ∀ a ∈ args, WellFormed (if a.isCompound then levels else levels + 1) a) :
      WellFormed (levels + 1) (.apply head args)
  | function {levels : Nat} {args : List Ty} {result : Ty} (hne : args ≠ [])
      (hs : ∀ a ∈ args, WellFormed (if a.isFunction then levels else levels + 1) a)
      (hr : WellFormed (levels + 1) result) : WellFormed (levels + 1) (.function args result)
  | tuple {levels : Nat} {items : List Ty} (hone : items.length ≠ 1)
      (hs : ∀ i ∈ items, WellFormed levels i) : WellFormed (levels + 1) (.tuple items)
  | record {levels : Nat} {fields : List (Text × Ty)} {base : Option Text}
      (h : ∀ f ∈ fields, IsIdent f.1) (hb : ∀ v ∈ base, IsIdent v ∧ fields ≠ [])
      (hs : ∀ f ∈ fields, WellFormed levels f.2) : WellFormed (levels + 1) (.record fields base)

namespace WellFormed

theorem succ {levels : Nat} {t : Ty} (h : WellFormed levels t) : WellFormed (levels + 1) t := by
  have hif : ∀ {levels : Nat} {b : Bool} {a : Ty},
      WellFormed ((if b then levels else levels + 1) + 1) a →
        WellFormed (if b then levels + 1 else levels + 1 + 1) a := by
    intro levels b a h
    cases b <;> exact h
  induction h with
  | var h hn => exact .var h hn
  | apply h hn _ ih => exact .apply h hn fun a ha => hif (ih a ha)
  | function hne _ _ ih ihr => exact .function hne (fun a ha => hif (ih a ha)) ihr
  | tuple hone _ ih => exact .tuple hone ih
  | record h hb _ ih => exact .record h hb ih

/-- Without the level that parentheses would open. -/
theorem of_if {levels : Nat} {b : Bool} {t : Ty}
    (h : WellFormed (if b then levels else levels + 1) t) : WellFormed (levels + 1) t := by
  cases b with
  | false => exact h
  | true => exact h.succ

theorem to_if {levels : Nat} {b : Bool} {t : Ty} (h : WellFormed levels t) :
    WellFormed (if b then levels else levels + 1) t := by
  cases b with
  | false => exact h.succ
  | true => exact h

theorem merge {levels : Nat} {args : List Ty} {result : Ty} (hne : args ≠ [])
    (hs : ∀ a ∈ args, WellFormed (if a.isFunction then levels else levels + 1) a)
    (hr : WellFormed (levels + 1) result) : WellFormed (levels + 1) (merge args result) := by
  cases hr with
  | function hne' hs' hr' =>
    refine .function (by simp [hne]) ?_ hr'
    intro a ha
    rcases List.mem_append.mp ha with ha | ha
    · exact hs a ha
    · exact hs' a ha
  | var h hn => exact .function hne hs (.var h hn)
  | apply h hn hs' => exact .function hne hs (.apply h hn hs')
  | tuple hone hs' => exact .function hne hs (.tuple hone hs')
  | record h hb hs' => exact .function hne hs (.record h hb hs')

theorem flat {levels : Nat} {t : Ty} (h : WellFormed levels t) : WellFormed levels t.flat := by
  induction h with
  | var h hn => exact .var h hn
  | apply h hn _ ih => exact .apply h hn (by simpa using ih)
  | function hne _ _ ih ihr =>
    rw [Ty.flat, flatAll_eq_map]
    exact merge (by simpa using hne) (by simpa using ih) ihr
  | tuple hone _ ih => exact .tuple (by simpa using hone) (by simpa using ih)
  | record h hb _ ih =>
    rw [Ty.flat, flatFields_eq_map]
    exact .record (List.forall_mem_map.mpr h) (by simpa using hb) (List.forall_mem_map.mpr ih)

theorem of_merge {levels more : Nat} {args : List Ty} {result : Ty} (hr : WellFormed more result)
    (h : WellFormed levels (Ty.merge args result)) : ∃ n, levels = n + 1 ∧
      (∀ a ∈ args, WellFormed (if a.isFunction then n else n + 1) a) ∧
      WellFormed (n + 1) result := by
  cases hr with
  | function hne _ _ =>
    cases h with
    | @function n _ _ _ hs hlast =>
      exact ⟨n, rfl, fun a ha => hs a (List.mem_append_left _ ha),
        .function hne (fun a ha => hs a (List.mem_append_right _ ha)) hlast⟩
  | _ =>
    cases h with
    | @function n _ _ _ hs hresult => exact ⟨n, rfl, hs, hresult⟩

/-- Merging its functions takes no level away from a type. -/
theorem of_flat {levels more : Nat} {t : Ty} (h : WellFormed more t)
    (hflat : WellFormed levels t.flat) : WellFormed levels t := by
  induction h generalizing levels with
  | var _ _ => exact hflat
  | apply h hn _ ih =>
    rw [Ty.flat, flatAll_eq_map] at hflat
    cases hflat with
    | apply _ _ hs =>
      exact .apply h hn fun a ha => ih a ha (by simpa using hs _ (List.mem_map_of_mem ha))
  | function hne _ hr ih ihr =>
    rw [Ty.flat, flatAll_eq_map] at hflat
    obtain ⟨n, rfl, hs, hresult⟩ := of_merge hr.flat hflat
    refine .function hne (fun a ha => ih a ha ?_) (ihr hresult)
    simpa using hs _ (List.mem_map_of_mem ha)
  | tuple hone _ ih =>
    rw [Ty.flat, flatAll_eq_map] at hflat
    cases hflat with
    | tuple _ hs => exact .tuple hone fun i hi => ih i hi (hs _ (List.mem_map_of_mem hi))
  | record h hb _ ih =>
    rw [Ty.flat, flatFields_eq_map] at hflat
    cases hflat with
    | record _ _ hs => exact .record h hb fun f hf => ih f hf (hs _ (List.mem_map_of_mem hf))

end WellFormed

/-- Only the types without functions that return functions are their own merged form. -/
theorem flat_eq_self_iff {levels : Nat} {t : Ty} (h : WellFormed levels t) :
    t.flat = t ↔ Uncurried t := by
  refine ⟨fun heq => ?_, flat_eq_of_uncurried⟩
  induction h with
  | var => exact .var
  | apply _ _ _ ih =>
    have hall := flatAll_eq_self_iff.mp (Ty.apply.inj heq).2
    exact .apply fun a ha => ih a ha (hall a ha)
  | function hne hs hr ih ihr =>
    rename_i levels args result
    rcases merge_eq_function_iff.mp heq with ⟨more, hresult, hargs⟩ | ⟨hf, hresult, hargs⟩
    · have hlength := congrArg List.length hargs
      have hmore : WellFormed (levels + 1) (.function more result) := hresult ▸ hr.flat
      cases hmore with
      | function hne' _ _ =>
        have hpos := List.length_pos_iff.mpr hne'
        simp only [flatAll_eq_map, List.length_append, List.length_map] at hlength
        omega
    · have hall := flatAll_eq_self_iff.mp hargs.symm
      rw [isFunction_flat] at hf
      exact .function (fun a ha => ih a ha (hall a ha)) (ihr hresult.symm) hf
  | tuple _ _ ih =>
    have hall := flatAll_eq_self_iff.mp (Ty.tuple.inj heq)
    exact .tuple fun i hi => ih i hi (hall i hi)
  | record _ _ _ ih =>
    have hall := flatFields_eq_self_iff.mp (Ty.record.inj heq).1
    exact .record fun f hf => ih f hf (hall f hf)

section

variable {f : Text → Text}

theorem WellFormed.rename (hident : ∀ name, IsIdent name → IsIdent (f name))
    (hvar : ∀ name, namesConstructor name = false → namesConstructor (f name) = false)
    {levels : Nat} {t : Ty} (h : WellFormed levels t) : WellFormed levels (t.rename f) := by
  induction h with
  | var h hn => exact .var (hident _ h) (hvar _ hn)
  | apply h hn _ ih =>
    rw [Ty.rename, renameAll_eq_map]
    exact .apply h hn (List.forall_mem_map.mpr (by simpa using ih))
  | function hne _ _ ih ihr =>
    rw [Ty.rename, renameAll_eq_map]
    exact .function (by simpa using hne) (List.forall_mem_map.mpr (by simpa using ih)) ihr
  | tuple hone _ ih =>
    rw [Ty.rename, renameAll_eq_map]
    exact .tuple (by simpa using hone) (List.forall_mem_map.mpr ih)
  | record h hb _ ih =>
    rw [Ty.rename, renameFields_eq_map]
    refine .record (List.forall_mem_map.mpr h) ?_ (List.forall_mem_map.mpr ih)
    intro v hv
    obtain ⟨u, hu, rfl⟩ := Option.map_eq_some_iff.mp hv
    exact ⟨hident u (hb u hu).1, by simpa using (hb u hu).2⟩

end

theorem canonicalName_eq (i : Nat) : ∃ c digits, canonicalName i = c :: digits ∧
    (∃ k < 26, c = Char.ofNat ('a'.toNat + k)) ∧ ∀ d ∈ digits, d.isDigit = true := by
  refine ⟨_, _, rfl, ⟨i % 26, Nat.mod_lt i (by decide), rfl⟩, fun d hd => ?_⟩
  split at hd
  · cases hd
  · exact Nat.isDigit_of_mem_toDigits (by decide) (by decide) hd

theorem isIdent_canonicalName (i : Nat) : IsIdent (canonicalName i) := by
  obtain ⟨c, digits, hname, ⟨k, hk, rfl⟩, hdigits⟩ := canonicalName_eq i
  have hletter : ∀ k < 26, startsIdent (Char.ofNat ('a'.toNat + k)) = true := by decide +kernel
  refine ⟨_, digits, hname, hletter k hk, fun d hd => ?_⟩
  simp [continuesIdent, Text.isAlphanumeric, Text.isNumeric_of_isDigit (hdigits d hd)]

theorem namesConstructor_canonicalName (i : Nat) : namesConstructor (canonicalName i) = false := by
  obtain ⟨c, digits, hname, ⟨k, hk, rfl⟩, hdigits⟩ := canonicalName_eq i
  have hletter : ∀ k < 26, Text.isUppercase (Char.ofNat ('a'.toNat + k)) = false ∧
      Char.ofNat ('a'.toNat + k) ≠ '.' := by decide +kernel
  have hdot : '.' ∉ Char.ofNat ('a'.toNat + k) :: digits := by
    intro h
    rcases List.mem_cons.mp h with h | h
    · exact (hletter k hk).2 h.symm
    · exact absurd (hdigits _ h) (by decide)
  rw [namesConstructor, hname, Text.afterLast_of_not_mem hdot]
  exact (hletter k hk).1

theorem WellFormed.normalize {levels : Nat} {t : Ty} (h : WellFormed levels t) :
    WellFormed levels t.normalize := by
  refine h.rename ?_ ?_
  · intro name hname
    unfold canonicalVar
    split
    · exact hname
    · exact isIdent_canonicalName _
  · intro name hname
    unfold canonicalVar
    split
    · exact hname
    · exact namesConstructor_canonicalName _

theorem Constructor.isIdent {levels : Nat} {ts : List Token} {name : Text}
    (h : Constructor levels ts name) (hl : Lexed ts) :
    IsIdent name ∧ namesConstructor name = true := by
  induction h with
  | bare hn => exact ⟨hl _ List.mem_cons_self, hn⟩
  | enclosed _ ih =>
    simp only [lexed_cons, lexed_append] at hl
    exact ih hl.2.1

theorem Separated.exists_item {α : Type} {separator : Token} {Item : List Token → α → Prop}
    {ts : List Token} {xs : List α} (h : Separated separator Item ts xs) (hl : Lexed ts) :
    ∀ x ∈ xs, ∃ us, Item us x ∧ Lexed us := by
  induction h with
  | one h => simpa using ⟨_, h, hl⟩
  | cons h _ ih =>
    simp only [lexed_append, lexed_cons] at hl
    exact List.forall_mem_cons.mpr ⟨⟨_, h, hl.1⟩, ih hl.2.2⟩

theorem Adjacent.exists_item {α : Type} {Item : List Token → α → Prop} {ts : List Token}
    {xs : List α} (h : Adjacent Item ts xs) (hl : Lexed ts) :
    ∀ x ∈ xs, ∃ us, Item us x ∧ Lexed us := by
  induction h with
  | nil => simp
  | cons h _ ih =>
    rw [lexed_append] at hl
    exact List.forall_mem_cons.mpr ⟨⟨_, h, hl.1⟩, ih hl.2⟩

theorem Separated.ne_nil {α : Type} {separator : Token} {Item : List Token → α → Prop}
    {ts : List Token} {xs : List α} (h : Separated separator Item ts xs) : xs ≠ [] := by
  cases h <;> exact List.cons_ne_nil _ _

section

variable {Nested : List Token → Ty → Prop} {levels : Nat} {ts : List Token} {t : Ty}

theorem Field.wellFormed (hnested : ∀ {ts t}, Nested ts t → Lexed ts → WellFormed levels t)
    {f : Text × Ty} (h : Field Nested ts f) (hl : Lexed ts) :
    IsIdent f.1 ∧ WellFormed levels f.2 := by
  cases h with
  | mk h =>
    simp only [lexed_cons] at hl
    exact ⟨hl.1 _ rfl, hnested h hl.2.2⟩

/-- A record with the fields and the variable that it extends. -/
theorem wellFormed_record (hnested : ∀ {ts t}, Nested ts t → Lexed ts → WellFormed levels t)
    {fields : List (Text × Ty)} {base : Option Text} (h : Separated .comma (Field Nested) ts fields)
    (hl : Lexed ts) (hb : ∀ v ∈ base, IsIdent v) :
    WellFormed (levels + 1) (.record fields base) := by
  have hfields : ∀ f ∈ fields, IsIdent f.1 ∧ WellFormed levels f.2 := by
    intro f hf
    obtain ⟨us, hfield, hus⟩ := h.exists_item hl f hf
    exact hfield.wellFormed hnested hus
  exact .record (fun f hf => (hfields f hf).1) (fun v hv => ⟨hb v hv, h.ne_nil⟩)
    fun f hf => (hfields f hf).2

/-- An atom that is a function or an applied constructor stands in parentheses. -/
theorem Atom.wellFormed (hnested : ∀ {ts t}, Nested ts t → Lexed ts → WellFormed levels t)
    (h : Atom Nested ts t) (hl : Lexed ts) :
    WellFormed (if t.isCompound then levels else levels + 1) t := by
  cases h with
  | var hn => exact .var (hl _ List.mem_cons_self) hn
  | constructor hn => exact .apply (hl _ List.mem_cons_self) hn (by simp)
  | unit => exact .tuple (by simp) (by simp)
  | enclosed h =>
    simp only [lexed_cons, lexed_append] at hl
    exact (hnested h hl.2.1).to_if
  | tuple h several =>
    simp only [lexed_cons, lexed_append] at hl
    refine .tuple (by omega) fun i hi => ?_
    obtain ⟨us, hitem, hus⟩ := h.exists_item hl.2.1 i hi
    exact hnested hitem hus
  | emptyRecord => exact .record (by simp) (by simp) (by simp)
  | record h =>
    simp only [lexed_cons, lexed_append] at hl
    exact wellFormed_record hnested h hl.2.1 (by simp)
  | extension h =>
    simp only [lexed_cons, lexed_append] at hl
    exact wellFormed_record hnested h hl.2.2.2.1 (by simpa using hl.2.1)

theorem Applied.wellFormed (hnested : ∀ {ts t}, Nested ts t → Lexed ts → WellFormed levels t)
    (h : Applied Nested levels ts t) (hl : Lexed ts) :
    WellFormed (if t.isFunction then levels else levels + 1) t := by
  cases h with
  | atom h =>
    have hatom := h.wellFormed hnested hl
    cases t with
    | function args result => exact hatom
    | _ => exact hatom.of_if
  | apply h hs _ =>
    rw [lexed_append] at hl
    obtain ⟨hident, hn⟩ := h.isIdent hl.1
    refine .apply hident hn fun a ha => ?_
    obtain ⟨us, hatom, hus⟩ := hs.exists_item hl.2 a ha
    exact hatom.wellFormed hnested hus

theorem Arrows.wellFormed (hnested : ∀ {ts t}, Nested ts t → Lexed ts → WellFormed levels t)
    (h : Arrows Nested levels ts t) (hl : Lexed ts) : WellFormed (levels + 1) t := by
  cases h with
  | one h => exact (h.wellFormed hnested hl).of_if
  | function h hne =>
    rename_i args result
    have hparts : ∀ x ∈ args ++ [result],
        WellFormed (if x.isFunction then levels else levels + 1) x := by
      intro x hx
      obtain ⟨us, happlied, hus⟩ := h.exists_item hl x hx
      exact happlied.wellFormed hnested hus
    exact .function hne (fun a ha => hparts a (by simp [ha])) (hparts result (by simp)).of_if

end

/-- What the grammar derives from the tokens of a text is well formed in as many levels. -/
theorem Derives.wellFormed {levels : Nat} {ts : List Token} {t : Ty} (h : Derives levels ts t)
    (hl : Lexed ts) : WellFormed levels t := by
  induction levels generalizing ts t with
  | zero => cases h
  | succ levels ih => exact Arrows.wellFormed ih h hl

end DocIndex.Ty
