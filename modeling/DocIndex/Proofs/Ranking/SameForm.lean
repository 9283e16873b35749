import DocIndex.Proofs.Ranking.OwnSignature

/-!
What a search for a type leaves out. The parts of a type cannot make up for its outermost form: a
type of another form is farther off than the least penalty, however well its parts match.
-/
namespace DocIndex

namespace Ty

/-- The candidate has the outermost form of the query, which is no variable: it is made by the same
constructor, from as many parts. A record has fields of the names of at least three quarters of the
fields of the query. -/
inductive SameForm : Ty → Ty → Prop where
  | function {args args' : List Ty} {result result' : Ty} (hlength : args.length = args'.length) :
      SameForm (.function args result) (.function args' result')
  | tuple {items items' : List Ty} (hlength : items.length = items'.length) :
      SameForm (.tuple items) (.tuple items')
  | apply {head head' : Text} {args args' : List Ty} (hlength : args.length = args'.length)
      (hhead : (Text.afterLast '.' head).map Char.toLower =
        (Text.afterLast '.' head').map Char.toLower) :
      SameForm (.apply head args) (.apply head' args')
  | record {fields fields' : List (Text × Ty)} {base base' : Option Text}
      (hnames : 3 * fields.length ≤ 4 * fields.countP (·.1 ∈ fields'.map Prod.fst)) :
      SameForm (.record fields base) (.record fields' base')

theorem SameForm.isVar_eq_false {q c : Ty} (h : SameForm q c) : c.isVar = false := by
  cases h <;> rfl

theorem not_medium_le_low : ¬(Scale.medium : ℚ) ≤ Scale.low := by decide +kernel

theorem not_unrelated_le_low : ¬(Scale.unrelated : ℚ) ≤ Scale.low := by decide +kernel

theorem of_ite_le_low {p : Prop} [Decidable p] {score : ℚ}
    (h : (if p then score else Scale.unrelated) ≤ Scale.low) : p := by
  by_contra hp
  rw [if_neg hp] at h
  exact not_unrelated_le_low h

theorem headDistance_of_ne {head head' : Text}
    (h : (Text.afterLast '.' head).map Char.toLower ≠
      (Text.afterLast '.' head').map Char.toLower) :
    (headDistance head head' : ℚ) = Scale.unrelated := by
  have hsame : Text.afterLast '.' head ≠ Text.afterLast '.' head' := fun heq => h (heq ▸ rfl)
  simp only [headDistance, if_neg hsame, if_neg h]

/-- The best arguments outweigh only half of an unrelated constructor. -/
theorem head_of_distance_le {head head' : Text} {args args' : List Ty}
    (hlength : args.length = args'.length)
    (h : (apply head args).distance (apply head' args') ≤ (Scale.low : ℚ)) :
    (Text.afterLast '.' head).map Char.toLower = (Text.afterLast '.' head').map Char.toLower := by
  by_contra hne
  have hunrelated := headDistance_of_ne hne
  rw [distance, if_pos hlength, hunrelated] at h
  split at h
  next => exact not_unrelated_le_low h
  next =>
    have hparts : (0 : ℚ) ≤ Scale.mean (distances args args') :=
      Scale.mean_nonneg (distances_nonneg (fun t _ => measured t) args')
    have hhalf : (Scale.unrelated : ℚ) = 1 := rfl
    have hlow : (Scale.low : ℚ) = 1 / 4 := rfl
    rw [Scale.midpoint_rat, hhalf, hlow] at h
    linarith

/-- A field without a counterpart is unrelated. -/
theorem countP_not_mem_le (fields fields' : List (Text × Ty)) :
    fields.countP (fun f => decide ¬f.1 ∈ fields'.map Prod.fst) ≤
      (fieldDistances fields fields').countP (· = (Scale.unrelated : ℚ)) := by
  rw [fieldDistances_eq, List.countP_map]
  refine List.countP_mono_left fun f _ hf => ?_
  have hmissing : fields'.lookup f.1 = none := by
    refine List.lookup_eq_none_iff.mpr fun g hg => bne_iff_ne.mpr fun hname => ?_
    exact of_decide_eq_true hf (hname ▸ List.mem_map_of_mem hg)
  simp [fieldDistance, hmissing]

theorem names_of_distance_le {fields fields' : List (Text × Ty)} {base base' : Option Text}
    (h : (record fields base).distance (record fields' base') ≤ (Scale.low : ℚ)) :
    3 * fields.length ≤ 4 * fields.countP (·.1 ∈ fields'.map Prod.fst) := by
  rw [distance] at h
  split at h
  next hnil => simp [List.isEmpty_iff.mp hnil]
  next =>
    have hparts : ∀ d ∈ (fieldDistances fields fields' : List ℚ), 0 ≤ d :=
      fieldDistances_nonneg (fun f _ => measured f.2) fields'
    have hquarter := Scale.countP_unrelated_of_mean_le_low hparts h
    have hmissing := countP_not_mem_le fields fields'
    have hall := List.length_eq_countP_add_countP (·.1 ∈ fields'.map Prod.fst) (l := fields)
    simp only [decide_eq_true_eq] at hall
    have hlength : (fieldDistances fields fields' : List ℚ).length = fields.length := by
      rw [fieldDistances_eq, List.length_map]
    omega

theorem sameForm_of_distance_le {q c : Ty} (hvar : q.isVar = false)
    (h : q.distance c ≤ (Scale.low : ℚ)) : SameForm q c := by
  cases q with
  | var name => cases hvar
  | function args result =>
    cases c with
    | function args' result' =>
      rw [distance] at h
      exact .function (of_ite_le_low h)
    | var name => exact absurd h not_medium_le_low
    | _ => exact absurd h not_unrelated_le_low
  | tuple items =>
    cases c with
    | tuple items' =>
      rw [distance] at h
      exact .tuple (of_ite_le_low h)
    | var name => exact absurd h not_medium_le_low
    | _ => exact absurd h not_unrelated_le_low
  | apply head args =>
    cases c with
    | apply head' args' =>
      have hlength : args.length = args'.length := by
        rw [distance] at h
        exact of_ite_le_low h
      exact .apply hlength (head_of_distance_le hlength h)
    | var name => exact absurd h not_medium_le_low
    | _ => exact absurd h not_unrelated_le_low
  | record fields base =>
    cases c with
    | record fields' base' => exact .record (names_of_distance_le h)
    | var name => exact absurd h not_medium_le_low
    | _ => exact absurd h not_unrelated_le_low

end Ty

variable (resembles : Text → Text → Bool) {query : Text} {q : Ty}

theorem Query.type_of_ofText (h : Query.ofText query = .type q) :
    q = (Ty.ofSignature query).normalize ∧ q.isVar = false := by
  unfold Query.ofText at h
  simp only at h
  split at h
  next => cases h
  next hvar =>
    obtain rfl := Query.type.inj h
    exact ⟨rfl, by simpa using hvar⟩

/-- A signature that cannot be read is indexed as a variable. -/
theorem IndexedValue.isVar_canonical_ofEntry (package home ident : Text) {e : Entry Text}
    {error : SyntaxError} (h : Ty.ofText e.signature = .error error) :
    (ofEntry package home ident e).canonical.isVar = true := by
  rw [canonical_ofEntry, signature_ofEntry, Ty.ofSignature_of_error h]
  rfl

/-- A search for a type, by exact scores, finds only values whose canonical types have the outermost
form of the one that is asked for. So it finds no value whose type is a variable, and none whose
signature could not be read. -/
theorem rank_same_form (hq : Query.ofText query = .type q) (values : List IndexedValue) :
    ∀ m ∈ (rank resembles query values : Ranking ℚ).toList,
      q.SameForm m.value.canonical ∧ m.value.canonical.isVar = false ∧
      ∀ (package home ident : Text) (e : Entry Text) (error : SyntaxError),
        Ty.ofText e.signature = .error error → m.value ≠ .ofEntry package home ident e := by
  intro m hm
  obtain ⟨-, -, hscore, hlow⟩ := (mem_rank_iff resembles).mp hm
  rw [hq, Query.score] at hscore
  have hdistance : q.distance m.value.canonical ≤ (Scale.low : ℚ) :=
    hscore ▸ of_decide_eq_true hlow
  have hform := Ty.sameForm_of_distance_le (Query.type_of_ofText hq).2 hdistance
  refine ⟨hform, hform.isVar_eq_false, fun package home ident e error herror hvalue => ?_⟩
  have hvar := IndexedValue.isVar_canonical_ofEntry package home ident herror
  rw [← hvalue, hform.isVar_eq_false] at hvar
  cases hvar

def numbersTy (names : List Char) : Ty := .record (names.map fun c => ([c], .apply "Int" [])) none

theorem ofText_numbersTy {names : List Char} (h : names.all Token.startsIdent = true) :
    Ty.ofText (numbersTy names).text = .ok (numbersTy names) := by
  have hident : ∀ c ∈ names, Token.IsIdent [c] :=
    fun c hc => Token.isIdent_singleton (List.all_eq_true.mp h c hc)
  have hint : Ty.WellFormed 63 (.apply "Int" []) :=
    .apply ⟨'I', "nt", rfl, by decide +kernel, List.all_eq_true.mp (by decide +kernel)⟩
      (by decide +kernel) (by simp)
  have hwell : Ty.WellFormed 64 (numbersTy names) :=
    .record (List.forall_mem_map.mpr hident) (by simp) (List.forall_mem_map.mpr fun _ _ => hint)
  have huncurried : (numbersTy names).Uncurried :=
    .record (List.forall_mem_map.mpr fun _ _ => .apply (List.forall_mem_nil _))
  rw [Ty.ofText_text hwell, Ty.flat_eq_of_uncurried huncurried]

def numbersValue : IndexedValue :=
  .ofEntry "a/b/1.0.0" "M" "f" ⟨"f", [], (numbersTy ['a', 'b', 'c', 'e']).text⟩

def brokenValue : IndexedValue := .ofEntry "a/b/1.0.0" "M" "g" ⟨"g", [], "\x7b a : Int"⟩

theorem rank_same_form_numbers :
    (⟨1 / 4, numbersValue⟩ : Match ℚ) ∈ (rank Text.resembles
      (numbersTy ['a', 'b', 'c', 'd']).text [brokenValue, numbersValue]).toList ∧
    (numbersTy ['a', 'b', 'c', 'd']).normalize.SameForm numbersValue.canonical ∧
    ∀ m ∈ (rank Text.resembles (numbersTy ['a', 'b', 'c', 'd']).text
      [brokenValue, numbersValue] : Ranking ℚ).toList, m.value ≠ brokenValue := by
  have hread := @ofText_numbersTy ['a', 'b', 'c', 'd'] (by decide +kernel)
  have hread' := @ofText_numbersTy ['a', 'b', 'c', 'e'] (by decide +kernel)
  have hquery := Query.ofText_of_type hread rfl
  have hcanonical : numbersValue.canonical = (numbersTy ['a', 'b', 'c', 'e']).normalize := by
    rw [numbersValue, IndexedValue.canonical_ofEntry, IndexedValue.signature_ofEntry,
      Ty.ofSignature_of_ok hread']
  have hscore : (numbersTy ['a', 'b', 'c', 'd']).normalize.distance
    (numbersTy ['a', 'b', 'c', 'e']).normalize = (1 / 4 : ℚ) := by decide +kernel
  have hmem : (⟨1 / 4, numbersValue⟩ : Match ℚ) ∈ (rank Text.resembles
      (numbersTy ['a', 'b', 'c', 'd']).text [brokenValue, numbersValue]).toList := by
    refine (mem_rank_iff _).mpr ⟨Ty.ne_nil_of_ofText hread, by simp, ?_, by decide +kernel⟩
    rw [hquery, Query.score, hcanonical, hscore]
  have hfound := rank_same_form Text.resembles hquery [brokenValue, numbersValue]
  have hbroken : (Ty.ofText "\x7b a : Int").toBool = false := by decide +kernel
  refine ⟨hmem, (hfound _ hmem).1, fun m hm => ?_⟩
  cases herror : Ty.ofText "\x7b a : Int" with
  | ok t =>
    rw [herror] at hbroken
    cases hbroken
  | error error => exact (hfound m hm).2.2 _ _ _ _ error herror

end DocIndex
