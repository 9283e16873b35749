import DocIndex.Proofs.Ranking.OwnSignature
import DocIndex.Proofs.Signature.FieldOrder

/-!
Searches by types that list the fields of records in another order. The distance does not depend on
the order, but the names do that the variables get before it is taken, as they are given in order of
appearance. So two such searches agree exactly if both orders give the same names.
-/
namespace DocIndex

variable (resembles : Text → Text → Bool) {q q' : Text} {t u : Ty}

theorem Query.hits_type_congr (h : ∀ c, (t.distance c : ℚ) = u.distance c)
    (values : List IndexedValue) :
    (Query.hits resembles (.type t) values : List (Match ℚ)) =
      Query.hits resembles (.type u) values := by
  simp only [hits, score, h]

/-- Queries that are the same up to the order of the fields in records. As long as the variables keep
their names, both are at the same exact distances from all types. But a search first names the
variables in order of appearance, so both rank all values alike exactly if that gives every compared
variable the same name in both. -/
theorem rank_reordered (hq : Ty.ofText q = .ok t) (hq' : Ty.ofText q' = .ok u)
    (h : t.Reordered u) (hvar : t.isVar = false) (hd : t.DistinctFields) :
    (∀ f c, ((t.rename f).distance c : ℚ) = (u.rename f).distance c) ∧
    ((∀ values, (rank resembles q values : Ranking ℚ) = rank resembles q' values) ↔
      ∀ x ∈ t.comparedVars, Ty.canonicalVar t.freeVars x = Ty.canonicalVar u.freeVars x) := by
  have hquery := Query.ofText_of_type hq hvar
  have hquery' := Query.ofText_of_type hq' (h.isVar_eq.trans hvar)
  have hne := Ty.ne_nil_of_ofText hq
  have hne' := Ty.ne_nil_of_ofText hq'
  refine ⟨fun f => h.distance_rename_eq fun _ _ => rfl, fun hall => ?_, fun hnames values => ?_⟩
  · let v : IndexedValue := ⟨[], ⟨[], []⟩, ⟨[], [], t⟩, t.normalize⟩
    have hself : t.normalize.distance t.normalize = (0 : ℚ) :=
      Ty.distance_eq_zero_iff.mpr (Ty.alike_self (hd.rename _))
    have hmem : (⟨0, v⟩ : Match ℚ) ∈ (rank resembles q [v]).toList := by
      rw [mem_rank_iff, hquery]
      exact ⟨hne, List.mem_singleton_self v, hself.symm, Scale.perfects_rat.low⟩
    rw [hall, mem_rank_iff, hquery'] at hmem
    obtain ⟨-, -, hscore, -⟩ := hmem
    have hzero : (t.rename (Ty.canonicalVar u.freeVars)).distance t.normalize = (0 : ℚ) :=
      (h.distance_rename_eq (fun _ _ => rfl) _).trans hscore.symm
    have halike := (Ty.alike_rename_iff hd).mp (Ty.distance_eq_zero_iff.mp hzero)
    exact fun x hx => (halike x hx).symm
  · have hscores : ∀ c, (t.normalize.distance c : ℚ) = u.normalize.distance c :=
      h.distance_rename_eq hnames
    rw [rank_eq, rank_eq, hquery, hquery', Query.hits_type_congr resembles hscores,
      List.isEmpty_eq_false_iff.mpr hne, List.isEmpty_eq_false_iff.mpr hne']

/-- A value within the least penalty is found among no others. -/
theorem rank_singleton {σ : Type} [Scale σ] {v : IndexedValue} {score : σ} (hne : q ≠ [])
    (hscore : (Query.ofText q).score resembles v = score)
    (hlow : Scale.le score Scale.low = true) : rank resembles q [v] = .found [⟨score, v⟩] := by
  have hhits : (Query.ofText q).hits resembles [v] = [(⟨score, v⟩ : Match σ)] := by
    simp [Query.hits, hscore, hlow]
  rw [rank_eq, List.isEmpty_eq_false_iff.mpr hne, hhits, List.mergeSort_singleton]
  rfl

def pairTy (x a y b : Char) : Ty := .record [([x], .var [a]), ([y], .var [b])] none

section

variable {x a y b : Char}

theorem ofText_pairTy (h : [x, a, y, b].all Token.startsIdent = true)
    (ha : Ty.namesConstructor [a] = false) (hb : Ty.namesConstructor [b] = false) :
    Ty.ofText (pairTy x a y b).text = .ok (pairTy x a y b) := by
  have hletter : ∀ c ∈ [x, a, y, b], Token.IsIdent [c] :=
    fun c hc => Token.isIdent_singleton (List.all_eq_true.mp h c hc)
  simp only [List.forall_mem_cons] at hletter
  obtain ⟨hx, ha', hy, hb', -⟩ := hletter
  have hwell : Ty.WellFormed 64 (pairTy x a y b) :=
    .record (by simp [hx, hy]) (by simp) (by simp [Ty.WellFormed.var, ha', ha, hb', hb])
  exact Ty.ofText_text hwell

theorem reordered_pairTy : (pairTy x a y b).Reordered (pairTy y b x a) :=
  .record rfl (by simp) (by simp [Ty.Reordered.var]) (.swap _ _ _)

theorem distinctFields_pairTy (h : x ≠ y) : (pairTy x a y b).DistinctFields :=
  .record (by simpa using h) (by simp [Ty.DistinctFields.var])

end

theorem rank_reordered_shared :
    (pairTy 'x' 'a' 'y' 'a').text = "\x7b x : a, y : a \x7d".toList ∧
      (pairTy 'y' 'a' 'x' 'a').text = "\x7b y : a, x : a \x7d".toList ∧
      ∀ values, (rank Text.resembles (pairTy 'x' 'a' 'y' 'a').text values : Ranking ℚ) =
        rank Text.resembles (pairTy 'y' 'a' 'x' 'a').text values := by
  have hread := ofText_pairTy (x := 'x') (a := 'a') (y := 'y') (b := 'a')
    (by decide +kernel) (by decide +kernel) (by decide +kernel)
  have hread' := ofText_pairTy (x := 'y') (a := 'a') (y := 'x') (b := 'a')
    (by decide +kernel) (by decide +kernel) (by decide +kernel)
  have hnames : ∀ v ∈ (pairTy 'x' 'a' 'y' 'a').comparedVars,
      Ty.canonicalVar (pairTy 'x' 'a' 'y' 'a').freeVars v =
        Ty.canonicalVar (pairTy 'y' 'a' 'x' 'a').freeVars v := by decide +kernel
  exact ⟨by decide +kernel, by decide +kernel,
    (rank_reordered Text.resembles hread hread' reordered_pairTy rfl
      (distinctFields_pairTy (by decide))).2.mpr hnames⟩

def pairValue : IndexedValue :=
  .ofEntry "a/b/1.0.0" "M" "f" ⟨"f", [], (pairTy 'x' 'a' 'y' 'b').text⟩

/-- The fields are listed in the other order, so the variables get each other's names. -/
theorem rank_reordered_apart :
    (pairTy 'x' 'a' 'y' 'b').text = "\x7b x : a, y : b \x7d".toList ∧
      (pairTy 'y' 'b' 'x' 'a').text = "\x7b y : b, x : a \x7d".toList ∧
      Ty.ofText (pairTy 'x' 'a' 'y' 'b').text = .ok (pairTy 'x' 'a' 'y' 'b') ∧
      Ty.ofText (pairTy 'y' 'b' 'x' 'a').text = .ok (pairTy 'y' 'b' 'x' 'a') ∧
      (pairTy 'x' 'a' 'y' 'b').Reordered (pairTy 'y' 'b' 'x' 'a') ∧
      (pairTy 'x' 'a' 'y' 'b').isVar = false ∧ (pairTy 'x' 'a' 'y' 'b').DistinctFields ∧
      rank Text.resembles (pairTy 'x' 'a' 'y' 'b').text [pairValue] =
        .found [(⟨0, pairValue⟩ : Match ℚ)] ∧
      rank Text.resembles (pairTy 'y' 'b' 'x' 'a').text [pairValue] =
        .found [(⟨1 / 4, pairValue⟩ : Match ℚ)] := by
  have hread := ofText_pairTy (x := 'x') (a := 'a') (y := 'y') (b := 'b')
    (by decide +kernel) (by decide +kernel) (by decide +kernel)
  have hread' := ofText_pairTy (x := 'y') (a := 'b') (y := 'x') (b := 'a')
    (by decide +kernel) (by decide +kernel) (by decide +kernel)
  have hcanonical : pairValue.canonical = (pairTy 'x' 'a' 'y' 'b').normalize := by
    rw [pairValue, IndexedValue.canonical_ofEntry, IndexedValue.signature_ofEntry,
      Ty.ofSignature_of_ok hread]
  have hscore : (pairTy 'x' 'a' 'y' 'b').normalize.distance
    (pairTy 'x' 'a' 'y' 'b').normalize = (0 : ℚ) := by decide +kernel
  have hscore' : (pairTy 'y' 'b' 'x' 'a').normalize.distance
    (pairTy 'x' 'a' 'y' 'b').normalize = (1 / 4 : ℚ) := by decide +kernel
  refine ⟨by decide +kernel, by decide +kernel, hread, hread', reordered_pairTy, rfl,
    distinctFields_pairTy (by decide), ?_, ?_⟩
  · refine rank_singleton _ (Ty.ne_nil_of_ofText hread) ?_ (by decide +kernel)
    rw [Query.ofText_of_type hread rfl, Query.score, hcanonical, hscore]
  · refine rank_singleton _ (Ty.ne_nil_of_ofText hread') ?_ (by decide +kernel)
    rw [Query.ofText_of_type hread' rfl, Query.score, hcanonical, hscore']

end DocIndex
