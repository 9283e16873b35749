import DocIndex.Proofs.Ranking.TypeSearch
import DocIndex.Proofs.Signature.Alike

/-!
A search for the signature that a value displays. The display writes the arrows of a function that
returns a function in one row, so it reads as a function of more arguments. A value is found by its
own display with a perfect score exactly if its type has no such function.
-/
namespace DocIndex

theorem Query.ofText_of_type {q : Text} {t : Ty} (h : Ty.ofText q = .ok t)
    (hvar : t.isVar = false) : Query.ofText q = .type t.normalize := by
  have hnormal : t.normalize.isVar = false := by rw [Ty.normalize, Ty.isVar_rename, hvar]
  rw [Query.ofText, Ty.ofSignature_of_ok h, hnormal]
  rfl

theorem Ty.ne_nil_of_ofText {q : Text} {t : Ty} (h : ofText q = .ok t) : q ≠ [] := by
  rintro rfl
  cases h

theorem Ty.isVar_flat (t : Ty) : t.flat.isVar = t.isVar := by
  cases t with
  | function args result => cases h : result.flat <;> simp [flat, h, merge, isVar]
  | _ => rfl

/-- What a type read from a text displays is searched for as a type with its functions merged. -/
theorem Query.ofText_text {s : Text} {t : Ty} (h : Ty.ofText s = .ok t) (hvar : t.isVar = false) :
    Query.ofText t.text = .type t.normalize.flat := by
  have hread := Ty.ofText_text (Ty.wellFormed_of_ofText h)
  rw [ofText_of_type hread (by rw [Ty.isVar_flat, hvar]), Ty.normalize_flat]

theorem Ranking.exists_found {σ : Type} {r : Ranking σ} {m : Match σ} (h : m ∈ r.toList) :
    ∃ ms, r = .found ms ∧ m ∈ ms := by
  cases r with
  | found ms => exact ⟨ms, rfl, h⟩
  | _ => cases h

variable (resembles : Text → Text → Bool) {s : Text} {t : Ty} {v : IndexedValue}
  {values : List IndexedValue}

/-- A value is found by the signature that it displays, with a perfect score, exactly if its type
has no function that returns a function. -/
theorem rank_text (hs : Ty.ofText s = .ok t) (hvar : t.isVar = false) (hd : t.DistinctFields)
    (hv : v ∈ values) (hsignature : v.entry.signature = Ty.ofSignature s)
    (hcanonical : v.canonical = v.entry.signature.normalize) :
    (t.Uncurried → ∃ ms, rank resembles v.entry.signature.text values = .found ms ∧
      (⟨0.0, v⟩ : Match Float) ∈ ms) ∧
    ((⟨0, v⟩ : Match ℚ) ∈ (rank resembles v.entry.signature.text values).toList ↔
      t.Uncurried) := by
  have ht : v.entry.signature = t := by rw [hsignature, Ty.ofSignature_of_ok hs]
  rw [ht] at hcanonical ⊢
  have hwell := Ty.wellFormed_of_ofText hs
  have hne : t.text ≠ [] := Ty.ne_nil_of_ofText (Ty.ofText_text hwell)
  have hscore : ∀ (σ : Type) [Scale σ], (Query.ofText t.text).score resembles v =
      (t.normalize.flat.distance t.normalize : σ) := by
    intro σ _
    rw [Query.ofText_text hs hvar, Query.score, hcanonical]
  have halike : Ty.Alike t.normalize.flat t.normalize ↔ t.Uncurried := by
    rw [Ty.alike_flat_iff hwell.normalize (hd.rename _), Ty.normalize, Ty.uncurried_rename_iff]
  constructor
  · intro huncurried
    have hperfect := (halike.mpr huncurried).distance_eq Scale.perfects_float
    have hmem := (mem_rank_iff resembles (m := ⟨Scale.perfect, v⟩)).mpr
      ⟨hne, hv, by rw [hscore, hperfect], Scale.perfects_float.low⟩
    exact Ranking.exists_found hmem
  · rw [mem_rank_iff, hscore ℚ, ← halike, ← Ty.distance_eq_zero_iff]
    constructor
    · rintro ⟨-, -, hzero, -⟩
      exact hzero.symm
    · intro hzero
      exact ⟨hne, hv, hzero.symm, Scale.perfects_rat.low⟩

theorem IndexedValue.signature_ofEntry (package home ident : Text) (e : Entry Text) :
    (ofEntry package home ident e).entry.signature = Ty.ofSignature e.signature := rfl

theorem IndexedValue.canonical_ofEntry (package home ident : Text) (e : Entry Text) :
    (ofEntry package home ident e).canonical =
      (ofEntry package home ident e).entry.signature.normalize := rfl

def keyValue : IndexedValue :=
  .ofEntry "a/b/1.0.0" "M" "key" ⟨"key", "", (keyTy 'r' 'v').text⟩

theorem rank_text_keyTy : ∃ ms,
    rank Text.resembles (keyTy 'r' 'v').text [keyValue] = .found ms ∧
      (⟨0.0, keyValue⟩ : Match Float) ∈ ms := by
  have hwell : Ty.WellFormed 64 (keyTy 'r' 'v') :=
    wellFormed_keyTy (by decide +kernel) (by decide +kernel) (by decide +kernel)
  have hread : Ty.ofText (keyTy 'r' 'v').text = .ok (keyTy 'r' 'v') := Ty.ofText_text hwell
  have hrecord : ∀ base : Char,
      Ty.DistinctFields (.record [("key", .var "comparable")] (some [base])) :=
    fun base => .record (by simp) (List.forall_mem_singleton.mpr .var)
  have hdistinct : (keyTy 'r' 'v').DistinctFields :=
    .function (List.forall_mem_singleton.mpr (hrecord 'r')) .var
  have huncurried : (keyTy 'r' 'v').Uncurried :=
    .function (List.forall_mem_singleton.mpr (.record (List.forall_mem_singleton.mpr .var)))
      .var rfl
  have hsignature : keyValue.entry.signature = Ty.ofSignature (keyTy 'r' 'v').text :=
    IndexedValue.signature_ofEntry _ _ _ _
  have hfound := rank_text Text.resembles hread rfl hdistinct
    (List.mem_singleton_self keyValue) hsignature (IndexedValue.canonical_ofEntry _ _ _ _)
  rw [hsignature, Ty.ofSignature_of_ok hread] at hfound
  exact hfound.1 huncurried

def composeTy : Ty := .function [.var "a"] (.function [.var "b"] (.var "c"))

def composeValue : IndexedValue :=
  .ofEntry "elm/core/1.0.0" "M" "f" ⟨"f", "", "a -> (b -> c)"⟩

/-- The display of the value finds nothing. -/
theorem rank_text_composeTy :
    Ty.ofText "a -> (b -> c)" = .ok composeTy ∧ composeTy.isVar = false ∧
      composeTy.DistinctFields ∧
      composeValue.entry.signature = Ty.ofSignature "a -> (b -> c)" ∧
      composeValue.canonical = composeValue.entry.signature.normalize ∧
      composeValue.entry.signature.text = "a -> b -> c".toList ∧
      (rank Text.resembles composeValue.entry.signature.text [composeValue] : Ranking Float) =
        .nothing := by
  have hvar : ∀ {levels : Nat} {c : Char}, Ty.namesConstructor [c] = false →
      Ty.Applied (Ty.Derives levels) levels [.ident [c]] (.var [c]) := fun h => .atom (.var h)
  have hinner : Ty.Derives 63 [.ident "b", .arrow, .ident "c"]
      (.function [.var "b"] (.var "c")) :=
    .function (.cons (hvar (by decide +kernel)) (.one (hvar (by decide +kernel)))) (by simp)
  have houter : Ty.Derives 64
      [.ident "a", .arrow, .openParen, .ident "b", .arrow, .ident "c", .closeParen] composeTy :=
    .function (.cons (hvar (by decide +kernel)) (.one (.atom (.enclosed hinner)))) (by simp)
  have hread : Ty.ofText "a -> (b -> c)" = .ok composeTy :=
    Ty.ofText_eq_ok_iff.mpr ⟨_, Token.scans_of_scan (by decide +kernel), houter⟩
  have hdistinct : composeTy.DistinctFields :=
    .function (List.forall_mem_singleton.mpr .var)
      (.function (List.forall_mem_singleton.mpr .var) .var)
  have hhits : ((Query.ofText composeValue.entry.signature.text).hits Text.resembles
      [composeValue] : List (Match Float)) = [] :=
    List.length_eq_zero_iff.mp (by decide +kernel)
  refine ⟨hread, rfl, hdistinct, IndexedValue.signature_ofEntry _ _ _ _,
    IndexedValue.canonical_ofEntry _ _ _ _, by decide +kernel, ?_⟩
  rw [rank_eq, hhits, List.mergeSort_nil, if_neg (by decide +kernel)]
  rfl

end DocIndex
