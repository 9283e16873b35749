import DocIndex.Ranking
import DocIndex.Scale.Exact

/-!
Rankings of the same values in different orders: the matches are the same, and only matches with
equal scores may stand in another order.
-/
namespace DocIndex

theorem map_val_mergeSort_attach {α : Type} (le : α → α → Bool) (xs : List α) :
    (xs.attach.mergeSort fun a b => le a.1 b.1).map Subtype.val = xs.mergeSort le := by
  rw [List.map_mergeSort (s := le) fun a _ b _ => rfl, List.attach_map_subtype_val]

/-- Sorting needs an order of the sorted values only. -/
theorem pairwise_mergeSort_of_mem {α : Type} {le : α → α → Bool} {xs : List α}
    (trans : ∀ a ∈ xs, ∀ b ∈ xs, ∀ c ∈ xs, le a b = true → le b c = true → le a c = true)
    (total : ∀ a ∈ xs, ∀ b ∈ xs, (le a b || le b a) = true) :
    (xs.mergeSort le).Pairwise fun a b => le a b = true := by
  let below (a b : {a // a ∈ xs}) : Bool := le a.1 b.1
  have hsorted : (xs.attach.mergeSort below).Pairwise fun a b => below a b = true :=
    List.pairwise_mergeSort (fun a b c => trans a.1 a.2 b.1 b.2 c.1 c.2)
      (fun a b => total a.1 a.2 b.1 b.2) xs.attach
  rw [← map_val_mergeSort_attach, List.pairwise_map]
  exact hsorted

structure Scale.Orders {σ : Type} [Scale σ] (scores : List σ) : Prop where
  total : ∀ x ∈ scores, ∀ y ∈ scores, (le x y || le y x) = true
  trans : ∀ x ∈ scores, ∀ y ∈ scores, ∀ z ∈ scores,
    le x y = true → le y z = true → le x z = true
  antisymm : ∀ x ∈ scores, ∀ y ∈ scores, le x y = true → le y x = true → x = y

/-- Exact scores are always ordered. -/
theorem Scale.orders_rat (scores : List ℚ) : Orders scores where
  total x _ y _ := by
    simpa [le] using le_total x y
  trans x _ y _ z _ hxy hyz := by
    simp only [le, decide_eq_true_eq] at hxy hyz ⊢
    exact hxy.trans hyz
  antisymm x _ y _ hxy hyx := by
    simp only [le, decide_eq_true_eq] at hxy hyx
    exact le_antisymm hxy hyx

section

variable {σ : Type} [Scale σ] (resembles : Text → Text → Bool)

theorem Scale.Orders.subset {xs ys : List σ} (h : Orders xs) (hsub : ∀ y ∈ ys, y ∈ xs) :
    Orders ys where
  total x hx y hy := h.total x (hsub x hx) y (hsub y hy)
  trans x hx y hy z hz := h.trans x (hsub x hx) y (hsub y hy) z (hsub z hz)
  antisymm x hx y hy := h.antisymm x (hsub x hx) y (hsub y hy)

theorem Scale.Orders.perm {xs ys : List σ} (h : Orders xs) (hperm : xs.Perm ys) : Orders ys :=
  h.subset fun _ hy => hperm.mem_iff.mpr hy

def Ranking.ofMatches : List (Match σ) → Ranking σ
  | [] => .nothing
  | ms => .found ms

omit [Scale σ] in
@[simp] theorem Ranking.toList_ofMatches (ms : List (Match σ)) : (ofMatches ms).toList = ms := by
  cases ms <;> rfl

theorem rank_eq (query : Text) (values : List IndexedValue) :
    (rank resembles query values : Ranking σ) =
      if query.isEmpty then .introduction
      else .ofMatches (((Query.ofText query).hits resembles values).mergeSort Match.le) := rfl

/-- A query finds the values whose score is within the least penalty. -/
theorem mem_rank_iff {query : Text} {values : List IndexedValue} {m : Match σ} :
    m ∈ (rank resembles query values : Ranking σ).toList ↔
      query ≠ [] ∧ m.value ∈ values ∧
        m.score = (Query.ofText query).score resembles m.value ∧
        Scale.le m.score Scale.low = true := by
  obtain ⟨score, v⟩ := m
  rw [rank_eq]
  split
  next hempty =>
    obtain rfl : query = [] := List.isEmpty_iff.mp hempty
    simp [Ranking.toList]
  next hne =>
    rw [Ranking.toList_ofMatches, List.mem_mergeSort, Query.hits, List.mem_filter, List.mem_map]
    simp only [Match.mk.injEq, List.isEmpty_iff] at hne ⊢
    constructor
    · rintro ⟨⟨u, hu, rfl, rfl⟩, hlow⟩
      exact ⟨hne, hu, rfl, hlow⟩
    · rintro ⟨-, hv, rfl, hlow⟩
      exact ⟨⟨v, hv, rfl, rfl⟩, hlow⟩

theorem Query.hits_perm (q : Query) {vs ws : List IndexedValue} (h : vs.Perm ws) :
    (q.hits resembles vs : List (Match σ)).Perm (q.hits resembles ws) :=
  (h.map _).filter _

/-- Sorted matches have ascending scores. -/
theorem Match.pairwise_score_mergeSort {ms : List (Match σ)}
    (h : Scale.Orders (ms.map Match.score)) :
    ((ms.mergeSort Match.le).map Match.score).Pairwise fun x y => Scale.le x y = true := by
  have hmem : ∀ m ∈ ms, m.score ∈ ms.map Match.score := fun m hm => List.mem_map_of_mem hm
  rw [List.pairwise_map]
  refine pairwise_mergeSort_of_mem ?_ ?_
  · intro a ha b hb c hc hab hbc
    exact h.trans _ (hmem a ha) _ (hmem b hb) _ (hmem c hc) hab hbc
  · intro a ha b hb
    exact h.total _ (hmem a ha) _ (hmem b hb)

/-- Sorting the same matches from another order gives the same scores in the same places. -/
theorem Match.map_score_mergeSort_eq {ms ns : List (Match σ)} (hperm : ms.Perm ns)
    (h : Scale.Orders (ms.map Match.score)) :
    (ms.mergeSort Match.le).map Match.score = (ns.mergeSort Match.le).map Match.score := by
  have hscores := hperm.map Match.score
  have hleft := (List.mergeSort_perm ms Match.le).map Match.score
  have hright := (List.mergeSort_perm ns Match.le).map Match.score
  refine List.Perm.eq_of_pairwise (fun x y hx hy => ?_) (pairwise_score_mergeSort h)
    (pairwise_score_mergeSort (h.perm hscores)) (hleft.trans (hscores.trans hright.symm))
  exact h.antisymm x (hleft.mem_iff.mp hx) y (hscores.mem_iff.mpr (hright.mem_iff.mp hy))

/-- Rankings of the same kind with the same matches, where only matches with equal scores may stand
in another order, provided that the scores are ordered. -/
inductive Ranking.Agree : Ranking σ → Ranking σ → Prop where
  | introduction : Agree .introduction .introduction
  | nothing : Agree .nothing .nothing
  | found {ms ns : List (Match σ)} (perm : ms.Perm ns)
      (scores : Scale.Orders (ms.map Match.score) → ms.map Match.score = ns.map Match.score) :
      Agree (.found ms) (.found ns)

theorem Ranking.agree_ofMatches {ms ns : List (Match σ)} (perm : ms.Perm ns)
    (scores : Scale.Orders (ms.map Match.score) → ms.map Match.score = ns.map Match.score) :
    Agree (ofMatches ms) (ofMatches ns) := by
  cases ms with
  | nil =>
    rw [perm.symm.eq_nil]
    exact .nothing
  | cons m ms =>
    cases ns with
    | nil => exact absurd perm.eq_nil (List.cons_ne_nil m ms)
    | cons n ns => exact .found perm scores

theorem Ranking.Agree.map_score_eq {r r' : Ranking σ} (h : Agree r r')
    (ho : Scale.Orders (r.toList.map Match.score)) :
    r.toList.map Match.score = r'.toList.map Match.score := by
  cases h with
  | introduction => rfl
  | nothing => rfl
  | found perm scores => exact scores ho

/-- The ranking of a query does not depend on the order of the values, up to the order of equal
scores. -/
theorem rank_agree (query : Text) {vs ws : List IndexedValue} (h : vs.Perm ws) :
    Ranking.Agree (rank resembles query vs : Ranking σ) (rank resembles query ws) := by
  rw [rank_eq, rank_eq]
  split
  · exact .introduction
  · let q := Query.ofText query
    have hhits : (q.hits resembles vs : List (Match σ)).Perm (q.hits resembles ws) :=
      q.hits_perm resembles h
    have hleft := List.mergeSort_perm (q.hits resembles vs : List (Match σ)) Match.le
    have hright := List.mergeSort_perm (q.hits resembles ws : List (Match σ)) Match.le
    refine Ranking.agree_ofMatches (hleft.trans (hhits.trans hright.symm)) fun horders => ?_
    exact Match.map_score_mergeSort_eq hhits (horders.perm (hleft.map Match.score))

end

end DocIndex
