import DocIndex.Proofs.NameDistance
import DocIndex.Proofs.Ranking.Permuted
import DocIndex.Proofs.Scale.Unsigned
import DocIndex.Proofs.Signature.Scales

/-!
Where scores come from. Every score is a fixed one or made of scores by means and midpoints, so what
these keep holds of all scores.
-/
namespace DocIndex

section

variable {σ : Type} [Scale σ] {P : σ → Prop}

/-- What scores have on their own they also have beside scores of any kind. -/
theorem Scale.Closed.related (hP : Scale.Closed P) : Scale.Related fun x (_ : σ) => P x where
  perfect := hP.perfect
  low := hP.low
  medium := hP.medium
  unrelated := hP.unrelated
  mean ds es h := by
    have hboth : List.Forall₂ (fun x (_ : σ) => P x ∧ True) ds es :=
      h.imp fun _ _ hx => ⟨hx, trivial⟩
    exact hP.mean ds ((List.forall₂_and_left ds es).mp hboth).1
  midpoint a b _ _ ha hb := hP.midpoint a b ha hb

theorem Ty.distance_closed (hP : Scale.Closed P) (t u : Ty) : P (t.distance u) :=
  distance_related hP.related t u

theorem Query.score_closed (hP : Scale.Closed P) (resembles : Text → Text → Bool) (q : Query)
    (v : IndexedValue) : P (q.score resembles v) := by
  cases q with
  | name query =>
    have hscore := nameDistance_mem_nameScores resembles query v.entry.name (σ := σ)
    simp only [nameScores, List.mem_cons, List.not_mem_nil, or_false] at hscore
    rw [Query.score]
    rcases hscore with h | h | h | h
    · exact h ▸ hP.perfect
    · exact h ▸ hP.slight
    · exact h ▸ hP.low
    · exact h ▸ hP.unrelated
  | type canonical => exact canonical.distance_closed hP v.canonical

/-- What all scores have, those of a ranking have, which are within the least penalty. -/
theorem score_of_mem_rank (hP : Scale.Closed P) (resembles : Text → Text → Bool) {query : Text}
    {values : List IndexedValue} {m : Match σ} (hm : m ∈ (rank resembles query values).toList) :
    P m.score ∧ Scale.le m.score Scale.low = true := by
  obtain ⟨-, -, hscore, hlow⟩ := (mem_rank_iff resembles).mp hm
  exact ⟨hscore ▸ (Query.ofText query).score_closed hP resembles m.value, hlow⟩

end

/-- The binary scores of a ranking are ordered: they are numbers, as they are within the least
penalty, and none of them is a negative zero. -/
theorem orders_rank (resembles : Text → Text → Bool) (query : Text) (values : List IndexedValue) :
    Scale.Orders ((rank resembles query values : Ranking Float).toList.map Match.score) := by
  have hscore : ∀ x ∈ (rank resembles query values : Ranking Float).toList.map Match.score,
      Scale.UnsignedFloat x ∧ Scale.le x Scale.low = true := by
    intro x hx
    obtain ⟨m, hm, rfl⟩ := List.mem_map.mp hx
    exact score_of_mem_rank Scale.closed_unsignedFloat resembles hm
  exact {
    total := fun x hx y hy => Scale.sorts_float.total x y (hscore x hx).2 (hscore y hy).2
    trans := fun x _ y _ z _ => Scale.sorts_float.trans x y z
    antisymm := fun x hx y hy => (hscore x hx).1.antisymm (hscore y hy).1 }

end DocIndex
