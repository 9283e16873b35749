import DocIndex.Proofs.Ranking.Permuted
import DocIndex.Proofs.Signature.Renaming
import DocIndex.Proofs.Signature.RoundTrip
import DocIndex.Text.Similarity

/-!
A search by type does not depend on the names that the query gives to its type variables.
-/
namespace DocIndex

/-- Queries that are no single variable and have one canonical form rank all values alike. -/
theorem rank_eq_of_normalize_eq {σ : Type} [Scale σ] (resembles : Text → Text → Bool) {q q' : Text}
    (hq : (Ty.ofSignature q).isVar = false)
    (h : (Ty.ofSignature q).normalize = (Ty.ofSignature q').normalize)
    (values : List IndexedValue) :
    (rank resembles q values : Ranking σ) = rank resembles q' values := by
  have hempty : (Ty.ofSignature []).normalize.isVar = true := by decide +kernel
  have hvar : (Ty.ofSignature q).normalize.isVar = false := by
    rw [Ty.normalize, Ty.isVar_rename, hq]
  have hne : ∀ {r : Text}, (Ty.ofSignature r).normalize.isVar = false → r.isEmpty = false := by
    intro r hr
    cases r with
    | nil => rw [hempty] at hr; cases hr
    | cons c r => rfl
  have hquery : Query.ofText q = Query.ofText q' := by
    simp only [Query.ofText, ← h, hvar]
    rfl
  rw [rank_eq, rank_eq, hne hvar, hne (h ▸ hvar), hquery]

/-- Types have one canonical form exactly if a renaming of the free variables, one to one, turns the
one into the other, and the canonical form is its own. Canonical names never meet, neither one
another nor the name of a constrained variable, which stays. So queries that are the same up to the
names of their variables rank all values alike. -/
theorem normalize_canonical :
    (∀ t u : Ty, t.normalize = u.normalize ↔ ∃ f, Ty.Renames f t u) ∧
    (∀ t : Ty, t.normalize.normalize = t.normalize) ∧
    Function.Injective Ty.canonicalName ∧ (∀ i, Ty.isConstrained (Ty.canonicalName i) = false) ∧
    (∀ t : Ty, Set.InjOn (Ty.canonicalVar t.freeVars) {x | x ∈ t.vars}) ∧
    ∀ q q' : Text, (Ty.ofSignature q).isVar = false →
      (∃ f, Ty.Renames f (Ty.ofSignature q) (Ty.ofSignature q')) →
      ∀ (σ : Type) [Scale σ] (resembles : Text → Text → Bool) (values : List IndexedValue),
        (rank resembles q values : Ranking σ) = rank resembles q' values := by
  refine ⟨Ty.normalize_eq_normalize_iff, fun t => t.renames_normalize.normalize_eq.symm,
    Ty.canonicalName_injective, Ty.isConstrained_canonicalName, Ty.canonicalVar_injOn, ?_⟩
  intro q q' hq hf σ _ resembles values
  exact rank_eq_of_normalize_eq resembles hq ((Ty.normalize_eq_normalize_iff _ _).mpr hf) values

def keyTy (base value : Char) : Ty :=
  .function [.record [("key", .var "comparable")] (some [base])] (.var [value])

theorem wellFormed_keyTy {base value : Char} (hb : Token.startsIdent base = true)
    (hv : Token.startsIdent value = true) (hn : Ty.namesConstructor [value] = false) :
    Ty.WellFormed 64 (keyTy base value) := by
  have hkey : Token.IsIdent "key" :=
    ⟨'k', "ey", rfl, by decide +kernel, List.all_eq_true.mp (by decide +kernel)⟩
  have hcomparable : Ty.WellFormed 63 (.var "comparable") :=
    .var ⟨'c', "omparable", rfl, by decide +kernel, List.all_eq_true.mp (by decide +kernel)⟩
      (by decide +kernel)
  have hrecord : Ty.WellFormed 64 (.record [("key", .var "comparable")] (some [base])) :=
    .record (List.forall_mem_singleton.mpr hkey) (by simpa using Token.isIdent_singleton hb)
      (List.forall_mem_singleton.mpr hcomparable)
  exact .function (by simp) (List.forall_mem_singleton.mpr hrecord)
    (.var (Token.isIdent_singleton hv) hn)

theorem ofSignature_keyTy {base value : Char} (hb : Token.startsIdent base = true)
    (hv : Token.startsIdent value = true) (hn : Ty.namesConstructor [value] = false) :
    Ty.ofSignature (keyTy base value).text = keyTy base value :=
  Ty.ofSignature_of_ok (Ty.ofText_text (wellFormed_keyTy hb hv hn))

/-- Queries of which one gives a variable the name that the other gives another variable. -/
theorem rank_keyTy :
    (keyTy 'r' 'v').text = "\x7b r | key : comparable \x7d -> v".toList ∧
      keyTy 'r' 'v' ≠ keyTy 'a' 'r' ∧
      ∀ values, (rank Text.resembles (keyTy 'r' 'v').text values : Ranking Float) =
        rank Text.resembles (keyTy 'a' 'r').text values := by
  have hread : Ty.ofSignature (keyTy 'r' 'v').text = keyTy 'r' 'v' :=
    ofSignature_keyTy (by decide +kernel) (by decide +kernel) (by decide +kernel)
  have hread' : Ty.ofSignature (keyTy 'a' 'r').text = keyTy 'a' 'r' :=
    ofSignature_keyTy (by decide +kernel) (by decide +kernel) (by decide +kernel)
  let f : Text → Text := fun x => if x = ['v'] then ['r'] else if x = ['r'] then ['a'] else x
  have hfree : ∀ x ∈ (keyTy 'r' 'v').free, x = ['r'] ∨ x = ['v'] := by
    rintro x ⟨hx, hc⟩
    have hmem : x ∈ [['r'], "comparable".toList, ['v']] := hx
    simp only [List.mem_cons, List.not_mem_nil, or_false] at hmem
    rcases hmem with h | rfl | h
    · exact .inl h
    · exact absurd hc (by decide)
    · exact .inr h
  have hrenames : Ty.Renames f (keyTy 'r' 'v') (keyTy 'a' 'r') := by
    refine Ty.renames_rename (fun x hx y hy hxy => ?_) (fun x hx => ?_) fun x hx => ?_
    · rcases hfree x hx with rfl | rfl <;> rcases hfree y hy with rfl | rfl
      · rfl
      · exact absurd hxy (by decide)
      · exact absurd hxy (by decide)
      · rfl
    · rcases hfree x hx with rfl | rfl <;> decide
    · have hr : x ≠ ['r'] := by
        rintro rfl
        exact absurd hx (by decide)
      have hv : x ≠ ['v'] := by
        rintro rfl
        exact absurd hx (by decide)
      simp [f, hr, hv]
  refine ⟨by decide +kernel, fun h => ?_, fun values => ?_⟩
  · exact absurd (congrArg Ty.vars h) (by decide)
  · exact normalize_canonical.2.2.2.2.2 _ _ (by rw [hread]; rfl) ⟨f, by rwa [hread, hread']⟩ Float
      Text.resembles values

end DocIndex
