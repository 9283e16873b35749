import DocIndex.Proofs.Signature.Alike

/-!
Distances on two scales. Where the fixed scores of two scales belong together, and means and
midpoints of scores that belong together do so again, every distance on one scale belongs to the
same distance on the other.
-/
namespace DocIndex

/-- A relation of scores that the fixed scores have and that means and midpoints keep. -/
structure Scale.Related {σ τ : Type} [Scale σ] [Scale τ] (R : σ → τ → Prop) : Prop where
  perfect : R perfect perfect
  low : R low low
  medium : R medium medium
  unrelated : R unrelated unrelated
  mean : ∀ (ds : List σ) (es : List τ), List.Forall₂ R ds es → R (mean ds) (mean es)
  midpoint : ∀ (a b : σ) (x y : τ), R a x → R b y → R (midpoint a b) (midpoint x y)

namespace Ty

variable {σ τ : Type} [Scale σ] [Scale τ] {R : σ → τ → Prop}

theorem headDistance_related (hR : Scale.Related R) (head head' : Text) :
    R (headDistance head head') (headDistance head head') := by
  simp only [headDistance, apply_ite₂ R]
  split
  · exact hR.perfect
  · split
    · exact hR.low
    · exact hR.unrelated

theorem distances_related {ts : List Ty} (h : ∀ t ∈ ts, ∀ u, R (t.distance u) (t.distance u))
    (us : List Ty) : List.Forall₂ R (distances ts us) (distances ts us) := by
  rw [distances_eq, distances_eq, List.forall₂_map_left_iff, List.forall₂_map_right_iff,
    List.forall₂_same]
  exact fun p hp => h p.1 (List.of_mem_zip hp).1 p.2

theorem fieldDistances_related (hR : Scale.Related R) {fields : List (Text × Ty)}
    (h : ∀ f ∈ fields, ∀ u, R (f.2.distance u) (f.2.distance u)) (fields' : List (Text × Ty)) :
    List.Forall₂ R (fieldDistances fields fields') (fieldDistances fields fields') := by
  rw [fieldDistances_eq, fieldDistances_eq, List.forall₂_map_left_iff, List.forall₂_map_right_iff,
    List.forall₂_same]
  intro f hf
  unfold fieldDistance
  cases fields'.lookup f.1 with
  | some u => exact h f hf u
  | none => exact hR.unrelated

theorem distance_related (hR : Scale.Related R) (t : Ty) :
    ∀ u, R (t.distance u) (t.distance u) := by
  induction t with
  | var name =>
    rintro (name' | _ | _ | _ | _)
    · rw [distance, distance, apply_ite₂ R]
      split
      · exact hR.perfect
      · exact hR.low
    all_goals exact hR.medium
  | apply head args ih =>
    rintro (_ | ⟨head', args'⟩ | _ | _ | _)
    · exact hR.medium
    · have hhead := headDistance_related hR head head'
      rw [distance, distance, apply_ite₂ R, apply_ite₂ R]
      split
      · split
        · exact hhead
        · exact hR.midpoint _ _ _ _ hhead (hR.mean _ _ (distances_related ih args'))
      · exact hR.unrelated
    all_goals exact hR.unrelated
  | function args result ih ihr =>
    rintro (_ | _ | ⟨args', result'⟩ | _ | _)
    · exact hR.medium
    · exact hR.unrelated
    · have hresult : List.Forall₂ R [result.distance result'] [result.distance result'] :=
        .cons (ihr result') .nil
      rw [distance, distance, apply_ite₂ R]
      split
      · exact hR.mean _ _ (List.rel_append (distances_related ih args') hresult)
      · exact hR.unrelated
    all_goals exact hR.unrelated
  | tuple items ih =>
    rintro (_ | _ | _ | items' | _)
    · exact hR.medium
    · exact hR.unrelated
    · exact hR.unrelated
    · rw [distance, distance, apply_ite₂ R]
      split
      · exact hR.mean _ _ (distances_related ih items')
      · exact hR.unrelated
    · exact hR.unrelated
  | record fields base ih =>
    rintro (_ | _ | _ | _ | ⟨fields', base'⟩)
    · exact hR.medium
    · exact hR.unrelated
    · exact hR.unrelated
    · exact hR.unrelated
    · rw [distance, distance, apply_ite₂ R, apply_ite₂ R]
      split
      · split
        · exact hR.perfect
        · exact hR.low
      · exact hR.mean _ _ (fieldDistances_related hR ih fields')

end Ty

end DocIndex
