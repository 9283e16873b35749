import DocIndex.Proofs.Signature.Recognition
import DocIndex.Proofs.Signature.WellFormed

/-!
Displayed types are read back: the displays are phrases of the grammar, so reading one gives the
type with its functions merged.
-/
namespace DocIndex.Ty

open Token

def Shows {α : Type} (Phrase : List Token → α → Prop) (t : Text) (x : α) : Prop :=
  ∃ ts, Scans t ts ∧ Phrase ts x

/-- Types with arrows between them, in at most so many levels of nested types. -/
def Row : Nat → List Token → List Ty → Prop
  | 0 => fun _ _ => False
  | levels + 1 => Separated .arrow (Applied (Derives levels) levels)

theorem Shows.imp {α β : Type} {P : List Token → α → Prop} {Q : List Token → β → Prop} {t : Text}
    {x : α} {y : β} (h : ∀ ts, P ts x → Q ts y) (hs : Shows P t x) : Shows Q t y := by
  obtain ⟨ts, hscans, hphrase⟩ := hs
  exact ⟨ts, hscans, h ts hphrase⟩

section

variable {Nested : List Token → Ty → Prop} {levels : Nat} {t : Ty}

theorem Shows.enclosed {text : Text} (h : Shows Nested text t) :
    Shows (Atom Nested) (enclose true text) t := by
  obtain ⟨ts, hscans, hphrase⟩ := h
  have hclose : Scans [')'] [.closeParen] := .punctuation rfl .nil
  have hrest : Scans (text ++ [')']) (ts ++ [.closeParen]) :=
    hscans.append (breaks_of_punctuation rfl []) hclose
  exact ⟨_, .punctuation rfl hrest, .enclosed hphrase⟩

theorem applied_of_separated {ts : List Token}
    (h : Separated .arrow (Applied Nested levels) ts [t]) : Applied Nested levels ts t := by
  cases h with
  | one h => exact h
  | cons _ h => cases h

theorem atom_of_applied {ts : List Token} (h : Applied Nested levels ts t)
    (hc : t.isCompound = false) : Atom Nested ts t := by
  cases h with
  | atom h => exact h
  | @apply _ _ _ args _ _ hne =>
    cases args with
    | nil => exact absurd rfl hne
    | cons a args => cases hc

theorem Shows.join {α β : Type} {Item : List Token → β → Prop} {f : α → Text} {g : α → β}
    {xs : List α} (h : ∀ x ∈ xs, Shows Item (f x) (g x)) (hne : xs ≠ []) :
    Shows (Separated .comma Item) (Text.join ", " (xs.map f)) (xs.map g) := by
  induction xs with
  | nil => exact absurd rfl hne
  | cons x xs ih =>
    obtain ⟨ts, hscans, hphrase⟩ := h x List.mem_cons_self
    cases xs with
    | nil => exact ⟨ts, by simpa [Text.join] using hscans, .one hphrase⟩
    | cons y xs =>
      obtain ⟨us, hscans', hphrase'⟩ := ih (fun z hz => h z (List.mem_cons_of_mem x hz)) (by simp)
      have hrest : Scans (',' :: ' ' :: Text.join ", " ((y :: xs).map f)) (.comma :: us) :=
        .punctuation rfl (.blank (by decide) hscans')
      have htext : Text.join ", " ((x :: y :: xs).map f) =
          f x ++ ',' :: ' ' :: Text.join ", " ((y :: xs).map f) := by
        simp [Text.join, List.intercalate]
      rw [htext]
      exact ⟨_, hscans.append (breaks_of_punctuation rfl _) hrest, .cons hphrase hphrase'⟩

/-- The arguments of a constructor, as they follow it. -/
theorem shows_args {args : List Ty}
    (h : ∀ a ∈ args, Shows (Atom Nested) (enclose a.isCompound a.text) a.flat) :
    Shows (Adjacent (Atom Nested)) (argTexts args) (args.map flat) ∧ Breaks (argTexts args) := by
  induction args with
  | nil => exact ⟨⟨[], .nil, .nil⟩, by simp [Breaks, argTexts]⟩
  | cons a args ih =>
    obtain ⟨ts, hscans, hphrase⟩ := h a List.mem_cons_self
    obtain ⟨⟨us, hscans', hphrase'⟩, hbreaks⟩ := ih fun b hb => h b (List.mem_cons_of_mem a hb)
    have hblank : Text.isBlank ' ' = true := by decide
    exact ⟨⟨ts ++ us, .blank hblank (hscans.append hbreaks hscans'), .cons hphrase hphrase'⟩,
      breaks_of_isBlank hblank _⟩

/-- The arguments of a function with their arrows, before what the function returns. -/
theorem shows_params {args parts : List Ty} {text : Text}
    (h : ∀ a ∈ args, Shows (Applied Nested levels) (enclose a.isFunction a.text) a.flat)
    (hr : Shows (Separated .arrow (Applied Nested levels)) text parts) :
    Shows (Separated .arrow (Applied Nested levels)) (paramTexts args ++ text)
      (args.map flat ++ parts) := by
  induction args with
  | nil => exact hr
  | cons a args ih =>
    obtain ⟨ts, hscans, hphrase⟩ := h a List.mem_cons_self
    obtain ⟨us, hscans', hphrase'⟩ := ih fun b hb => h b (List.mem_cons_of_mem a hb)
    have hblank : Text.isBlank ' ' = true := by decide
    have hrest : Scans (' ' :: '-' :: '>' :: ' ' :: (paramTexts args ++ text)) (.arrow :: us) :=
      .blank hblank (.arrow (.blank hblank hscans'))
    have htext : paramTexts (a :: args) ++ text = enclose a.isFunction a.text ++
        ' ' :: '-' :: '>' :: ' ' :: (paramTexts args ++ text) := by
      simp [paramTexts]
    rw [htext]
    exact ⟨_, hscans.append (breaks_of_isBlank hblank _) hrest, .cons hphrase hphrase'⟩

end

theorem Row.applied {levels : Nat} {ts : List Token} {t : Ty} (h : Row (levels + 1) ts t.parts)
    (hf : t.isFunction = false) : Applied (Derives levels) levels ts t := by
  rw [parts_of_isFunction hf] at h
  exact applied_of_separated h

theorem Row.of_applied {levels : Nat} {ts : List Token} {t : Ty}
    (h : Applied (Derives levels) levels ts t) (hf : t.isFunction = false) :
    Row (levels + 1) ts t.parts := by
  rw [parts_of_isFunction hf]
  exact .one h

/-- A row makes up the type whose parts it holds. -/
theorem Row.derives {levels : Nat} {ts : List Token} {t : Ty} (h : Row levels ts t.parts)
    (hw : WellFormed levels t) : Derives levels ts t := by
  cases hw with
  | function hne _ _ => exact .function h hne
  | var _ _ => exact .one (Row.applied h rfl)
  | apply _ _ _ => exact .one (Row.applied h rfl)
  | tuple _ _ => exact .one (Row.applied h rfl)
  | record _ _ _ => exact .one (Row.applied h rfl)

theorem shows_arg {levels : Nat} {a : Ty}
    (hw : WellFormed (if a.isCompound then levels else levels + 1) a)
    (h : Shows (Row (if a.isCompound then levels else levels + 1)) a.text a.flat.parts) :
    Shows (Atom (Derives levels)) (enclose a.isCompound a.text) a.flat := by
  cases hc : a.isCompound with
  | true =>
    rw [hc] at hw h
    exact Shows.enclosed (h.imp fun ts hrow => hrow.derives hw.flat)
  | false =>
    rw [hc] at h
    have hf : a.flat.isFunction = false := by
      cases a with
      | function => cases hc
      | _ => rfl
    exact h.imp fun ts hrow => atom_of_applied (Row.applied hrow hf) (by simpa using hc)

theorem shows_param {levels : Nat} {a : Ty}
    (hw : WellFormed (if a.isFunction then levels else levels + 1) a)
    (h : Shows (Row (if a.isFunction then levels else levels + 1)) a.text a.flat.parts) :
    Shows (Applied (Derives levels) levels) (enclose a.isFunction a.text) a.flat := by
  cases hf : a.isFunction with
  | true =>
    rw [hf] at hw h
    have henclosed := Shows.enclosed (h.imp fun ts hrow => hrow.derives hw.flat)
    exact henclosed.imp fun ts hatom => .atom hatom
  | false =>
    rw [hf] at h
    exact h.imp fun ts hrow => Row.applied hrow (by simpa using hf)

theorem shows_tuple {levels : Nat} {items : List Ty} (hone : items.length ≠ 1)
    (h : ∀ i ∈ items, Shows (Derives levels) i.text i.flat) :
    Shows (Atom (Derives levels)) (text (.tuple items)) (.tuple (items.map flat)) := by
  have hclose : Scans [')'] [.closeParen] := .punctuation rfl .nil
  rw [text, itemTexts_eq_map]
  cases items with
  | nil => exact ⟨_, .punctuation rfl hclose, .unit⟩
  | cons i items =>
    obtain ⟨ts, hscans, hphrase⟩ := Shows.join h (List.cons_ne_nil i items)
    have hseveral : 2 ≤ ((i :: items).map flat).length := by
      simp only [List.length_map, List.length_cons] at hone ⊢
      omega
    exact ⟨_, .punctuation rfl (hscans.append (breaks_of_punctuation rfl []) hclose),
      .tuple hphrase hseveral⟩

theorem shows_field {levels : Nat} {f : Text × Ty} (hn : IsIdent f.1)
    (h : Shows (Derives levels) f.2.text f.2.flat) :
    Shows (Field (Derives levels)) (f.1 ++ " : ".toList ++ f.2.text) (f.1, f.2.flat) := by
  obtain ⟨ts, hscans, hphrase⟩ := h
  have hblank : Text.isBlank ' ' = true := by decide
  have hrest : Scans (' ' :: ':' :: ' ' :: f.2.text) (.colon :: ts) :=
    .blank hblank (.punctuation rfl (.blank hblank hscans))
  refine ⟨.ident f.1 :: .colon :: ts, ?_, .mk hphrase⟩
  simpa using Scans.ident hn (breaks_of_isBlank hblank _) hrest

theorem shows_record {levels : Nat} {fields : List (Text × Ty)} {base : Option Text}
    (hn : ∀ f ∈ fields, IsIdent f.1) (hb : ∀ v ∈ base, IsIdent v ∧ fields ≠ [])
    (h : ∀ f ∈ fields, Shows (Derives levels) f.2.text f.2.flat) :
    Shows (Atom (Derives levels)) (text (.record fields base))
      (.record (fields.map fun f => (f.1, f.2.flat)) base) := by
  have hblank : Text.isBlank ' ' = true := by decide
  have hclose : Scans [' ', '\x7d'] [.closeBrace] := .blank hblank (.punctuation rfl .nil)
  rw [text, fieldTexts_eq_map]
  cases fields with
  | nil =>
    cases base with
    | none => exact ⟨_, .punctuation rfl hclose, .emptyRecord⟩
    | some v => exact absurd rfl (hb v rfl).2
  | cons f fields =>
    obtain ⟨ts, hscans, hphrase⟩ :=
      Shows.join (fun g hg => shows_field (hn g hg) (h g hg)) (List.cons_ne_nil f fields)
    have hbody := Scans.blank hblank (hscans.append (breaks_of_isBlank hblank _) hclose)
    cases base with
    | none => exact ⟨_, .punctuation rfl hbody, .record hphrase⟩
    | some v =>
      have hpipe : ofPunctuation? '|' = some .pipe := rfl
      have hbase := Scans.blank hblank (.ident (hb v rfl).1 (breaks_of_isBlank hblank _)
        (.blank hblank (.punctuation hpipe hbody)))
      refine ⟨_, .punctuation rfl ?_, .extension hphrase⟩
      simpa using hbase

/-- A well-formed type is displayed as the row of its parts, after functions are merged. -/
theorem WellFormed.shows_parts {levels : Nat} {t : Ty} (h : WellFormed levels t) :
    Shows (Row levels) t.text t.flat.parts := by
  induction h with
  | @var levels name h hn =>
    have hatom : Atom (Derives levels) [.ident name] (.var name) := .var hn
    exact ⟨_, scans_ident h, Row.of_applied (.atom hatom) rfl⟩
  | @apply levels head args h hn hs ih =>
    obtain ⟨⟨us, hscans, hargs⟩, hbreaks⟩ := shows_args fun a ha => shows_arg (hs a ha) (ih a ha)
    refine ⟨.ident head :: us, .ident h hbreaks hscans, Row.of_applied ?_ rfl⟩
    cases args with
    | nil =>
      cases hargs with
      | nil => exact .atom (.constructor hn)
    | cons a args =>
      rw [← flatAll_eq_map] at hargs
      exact .apply (.bare hn) hargs (List.cons_ne_nil _ _)
  | function hne hs hr ih ihr =>
    rw [Ty.flat, flatAll_eq_map, parts_merge]
    exact shows_params (fun a ha => shows_param (hs a ha) (ih a ha)) ihr
  | tuple hone hs ih =>
    rw [Ty.flat, flatAll_eq_map]
    have hitems := shows_tuple hone fun i hi =>
      (ih i hi).imp fun ts hrow => hrow.derives (hs i hi).flat
    exact hitems.imp fun ts hatom => Row.of_applied (.atom hatom) rfl
  | record hn hb hs ih =>
    rw [Ty.flat, flatFields_eq_map]
    have hfields := shows_record hn hb fun f hf =>
      (ih f hf).imp fun ts hrow => hrow.derives (hs f hf).flat
    exact hfields.imp fun ts hatom => Row.of_applied (.atom hatom) rfl

theorem ofText_text {t : Ty} (h : WellFormed SyntaxError.maxDepth t) :
    ofText t.text = .ok t.flat := by
  obtain ⟨ts, hscans, hrow⟩ := h.shows_parts
  exact ofText_eq_ok_iff.mpr ⟨ts, hscans, hrow.derives h.flat⟩

theorem wellFormed_of_ofText {text : Text} {t : Ty} (h : ofText text = .ok t) :
    WellFormed SyntaxError.maxDepth t := by
  obtain ⟨ts, hscans, hderives⟩ := ofText_eq_ok_iff.mp h
  exact hderives.wellFormed hscans.lexed

theorem ofSignature_of_ok {text : Text} {t : Ty} (h : ofText text = .ok t) :
    ofSignature text = t := by
  rw [ofSignature, h]

theorem ofSignature_of_error {text : Text} {e : SyntaxError} (h : ofText text = .error e) :
    ofSignature text = .var (Text.trim text) := by
  rw [ofSignature, h]

/-- The blanks at the ends of a text make no difference to what it reads as. -/
theorem ofSignature_trim (text : Text) : ofSignature (Text.trim text) = ofSignature text := by
  have hiff : ∀ t, ofText (Text.trim text) = .ok t ↔ ofText text = .ok t := by
    intro t
    simp only [ofText_eq_ok_iff, scans_trim_iff]
  cases h : ofText text with
  | ok t => rw [ofSignature_of_ok h, ofSignature_of_ok ((hiff t).mpr h)]
  | error e =>
    cases htrim : ofText (Text.trim text) with
    | ok t =>
      rw [(hiff t).mp htrim] at h
      cases h
    | error e' =>
      rw [ofSignature_of_error h, ofSignature_of_error htrim]
      exact congrArg var (Text.trimWhile_trimWhile Text.isBlank text)

theorem ofSignature_text_ofSignature (text : Text) :
    ofSignature (ofSignature text).text = (ofSignature text).flat := by
  cases h : ofText text with
  | ok t =>
    rw [ofSignature_of_ok h]
    exact ofSignature_of_ok (ofText_text (wellFormed_of_ofText h))
  | error e =>
    rw [ofSignature_of_error h]
    exact (ofSignature_trim text).trans (ofSignature_of_error h)

/-- Reading what a type displays gives the type with its functions merged, as long as its display
nests at most 64 levels; every type that was read, and its normalized form, is such a type. So what
any text reads as is displayed and read back up to merged functions: exactly the types without
functions that return functions come back unchanged, and the display never changes. -/
theorem ofText_text_roundTrip :
    (∀ t, WellFormed 64 t → ofText t.text = .ok t.flat) ∧
    (∀ t levels, WellFormed levels t → ofText t.text = .ok t.flat → WellFormed 64 t) ∧
    (∀ text t, ofText text = .ok t → WellFormed 64 t ∧ WellFormed 64 t.normalize) ∧
    (∀ t, WellFormed 64 t → (ofText t.text = .ok t ↔ Uncurried t) ∧
      (ofSignature t.text).text = t.text) ∧
    (∀ text, ofSignature (ofSignature text).text = (ofSignature text).flat) ∧
    (∀ text, ofSignature (ofSignature text).text = ofSignature text ↔
      Uncurried (ofSignature text)) ∧
    ∀ text, (ofSignature (ofSignature text).text).text = (ofSignature text).text := by
  refine ⟨fun t => ofText_text, fun t levels h hread => ?_, fun text t h => ?_, fun t h => ⟨?_, ?_⟩,
    ofSignature_text_ofSignature, fun text => ?_, fun text => ?_⟩
  · exact h.of_flat (wellFormed_of_ofText hread)
  · have hw := wellFormed_of_ofText h
    exact ⟨hw, hw.normalize⟩
  · rw [ofText_text h, Except.ok.injEq, flat_eq_self_iff h]
  · rw [ofSignature_of_ok (ofText_text h), text_flat]
  · rw [ofSignature_text_ofSignature]
    cases h : ofText text with
    | ok t =>
      rw [ofSignature_of_ok h]
      exact flat_eq_self_iff (wellFormed_of_ofText h)
    | error e =>
      rw [ofSignature_of_error h]
      exact iff_of_true rfl .var
  · rw [ofSignature_text_ofSignature, text_flat]

def curried : Ty :=
  .function [.apply "List" [.function [.var "a"] (.var "b")]]
    (.function [.record [("x", .var "a")] (some "r")] (.tuple []))

/-- What `curried` displays reads as one function of two arguments. -/
theorem ofText_text_curried :
    WellFormed 64 curried ∧ WellFormed 64 curried.flat.normalize ∧
      curried.text = "List (a -> b) -> \x7b r | x : a \x7d -> ()".toList ∧
      ofText curried.text = .ok (.function
        [.apply "List" [.function [.var "a"] (.var "b")], .record [("x", .var "a")] (some "r")]
        (.tuple [])) ∧
      ofText curried.text ≠ .ok curried ∧
      (ofSignature curried.text).text = curried.text := by
  obtain ⟨hread, -, hwell, hexact, -⟩ := ofText_text_roundTrip
  have hident : ∀ c, startsIdent c = true → IsIdent [c] := fun c hc => ⟨c, [], rfl, hc, by simp⟩
  have hvar : ∀ levels c, startsIdent c = true → namesConstructor [c] = false →
    WellFormed (levels + 1) (.var [c]) := fun levels c hc hn => .var (hident c hc) hn
  have ha : ∀ levels, WellFormed (levels + 1) (.var "a") :=
    fun levels => hvar levels 'a' (by decide +kernel) (by decide +kernel)
  have hfunction : WellFormed 63 (.function [.var "a"] (.var "b")) :=
    .function (by simp) (List.forall_mem_singleton.mpr (ha 62))
      (hvar 62 'b' (by decide +kernel) (by decide +kernel))
  have hlist : WellFormed 64 (.apply "List" [.function [.var "a"] (.var "b")]) :=
    .apply ⟨'L', "ist", rfl, by decide +kernel, List.all_eq_true.mp (by decide +kernel)⟩
      (by decide +kernel) (List.forall_mem_singleton.mpr hfunction)
  have hrecord : WellFormed 64 (.record [("x", .var "a")] (some "r")) :=
    .record (by simpa using hident 'x' (by decide +kernel))
      (by simpa using hident 'r' (by decide +kernel)) (List.forall_mem_singleton.mpr (ha 62))
  have hcurried : WellFormed 64 curried :=
    .function (by simp) (List.forall_mem_singleton.mpr hlist)
      (.function (by simp) (List.forall_mem_singleton.mpr hrecord) (.tuple (by simp) (by simp)))
  refine ⟨hcurried, (hwell _ _ (hread _ hcurried)).2, by decide +kernel, hread _ hcurried, ?_,
    (hexact _ hcurried).2⟩
  rw [Ne, (hexact _ hcurried).1]
  intro h
  cases h with
  | function _ _ hf => cases hf

end DocIndex.Ty
