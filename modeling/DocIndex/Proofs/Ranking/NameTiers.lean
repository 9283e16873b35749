import DocIndex.Proofs.Ranking.StableOrder

/-!
The ranking of a search by name. Equal names come first, then the names that start with the query,
then those that contain or resemble it; within each tier the order of the index stays.
-/
namespace DocIndex

section

variable {α : Type} {le : α → α → Bool}

/-- A property that nothing has behind an element without it cuts a list in two. -/
theorem eq_filter_append_filter {p : α → Bool} {xs : List α}
    (h : xs.Pairwise fun a b => p b = true → p a = true) :
    xs = xs.filter p ++ xs.filter (fun a => !p a) := by
  obtain ⟨front, rest, rfl, hfront, hrest⟩ := exists_append_of_pairwise h
  have hfront' : ∀ a ∈ front, ¬ (!p a) = true := fun a ha => by simp [hfront a ha]
  have hrest' : ∀ a ∈ rest, (!p a) = true := fun a ha => by simpa using hrest a ha
  rw [List.filter_append, List.filter_append, List.filter_eq_self.mpr hfront,
    List.filter_eq_nil_iff.mpr hrest, List.filter_eq_nil_iff.mpr hfront',
    List.filter_eq_self.mpr hrest', List.append_nil, List.nil_append]

/-- Elements with a property that is never behind them are sorted on their own. -/
theorem mergeSort_eq_append {p : α → Bool} {xs : List α}
    (trans : ∀ a ∈ xs, ∀ b ∈ xs, ∀ c ∈ xs, le a b = true → le b c = true → le a c = true)
    (total : ∀ a ∈ xs, ∀ b ∈ xs, (le a b || le b a) = true)
    (hfront : ∀ a ∈ xs, ∀ b ∈ xs, le a b = true → p b = true → p a = true) :
    xs.mergeSort le =
      (xs.filter p).mergeSort le ++ (xs.filter (fun a => !p a)).mergeSort le := by
  rw [← filter_mergeSort_of_mem trans total, ← filter_mergeSort_of_mem trans total]
  refine eq_filter_append_filter ?_
  have hsorted := pairwise_mergeSort_of_mem trans total
  exact hsorted.imp_of_mem fun ha hb hle =>
    hfront _ (List.mem_mergeSort.mp ha) _ (List.mem_mergeSort.mp hb) hle

end

section

variable {σ : Type} [Scale σ] {resembles : Text → Text → Bool} {query name : Text}

theorem nameDistance_of_core_nil (hquery : nameCore query = []) :
    (nameDistance resembles query name : σ) = Scale.unrelated := by
  simp [nameDistance, hquery]

theorem nameDistance_of_eq (hquery : nameCore query ≠ []) (h : nameCore name = nameCore query) :
    (nameDistance resembles query name : σ) = Scale.perfect := by
  simp [nameDistance, hquery, h]

theorem nameDistance_of_starting (hquery : nameCore query ≠ [])
    (hne : nameCore name ≠ nameCore query) (h : nameCore query <+: nameCore name) :
    (nameDistance resembles query name : σ) = Scale.slight := by
  simp [nameDistance, hquery, hne, List.isPrefixOf_iff_prefix.mpr h]

/-- A core that does not start with the query's is compared by what it contains and resembles. -/
theorem nameDistance_of_not_starting (hquery : nameCore query ≠ [])
    (h : ¬ nameCore query <+: nameCore name) :
    (nameDistance resembles query name : σ) =
      if nameCore query <:+: nameCore name ∨ resembles (nameCore query) (nameCore name) = true
      then Scale.low else Scale.unrelated := by
  have hne : nameCore name ≠ nameCore query := by
    rintro heq
    exact h (heq ▸ List.prefix_rfl)
  have hbegins : (nameCore query).isPrefixOf (nameCore name) = false := by
    rw [Bool.eq_false_iff, ne_eq, List.isPrefixOf_iff_prefix]
    exact h
  simp [nameDistance, hquery, hne, hbegins, Text.hasPart_iff]

/-- The hits among the values with a property. Those that are kept have one score, the other ones
are not within the least penalty. -/
theorem Query.filter_hits {q : Query} {p : IndexedValue → Bool} {kept : IndexedValue → Prop}
    [DecidablePred kept] {score : σ} (hlow : Scale.le score Scale.low = true)
    (hin : ∀ v, kept v → p v = true ∧ q.score resembles v = score)
    (hout : ∀ v, p v = true → ¬ kept v →
      Scale.le (q.score resembles v : σ) Scale.low = false) (values : List IndexedValue) :
    (q.hits resembles values : List (Match σ)).filter (fun m => p m.value) =
      (values.filter fun v => kept v).map fun v => ⟨score, v⟩ := by
  have hkept : ∀ v, (p v && Scale.le (q.score resembles v : σ) Scale.low) = decide (kept v) := by
    intro v
    by_cases hv : kept v
    · obtain ⟨hp, hscore⟩ := hin v hv
      simp [hv, hp, hscore, hlow]
    · cases hp : p v with
      | false => simp [hv]
      | true => simp [hv, hout v hp hv]
  rw [hits, List.filter_filter, List.filter_map]
  calc ((values.filter fun v => p v && Scale.le (q.score resembles v : σ) Scale.low).map
        fun v => (⟨q.score resembles v, v⟩ : Match σ))
      = (values.filter fun v => kept v).map fun v => ⟨q.score resembles v, v⟩ := by
        rw [List.filter_congr fun v _ => hkept v]
    _ = (values.filter fun v => kept v).map fun v => ⟨score, v⟩ :=
        List.map_congr_left fun v hv => by
          rw [(hin v (of_decide_eq_true (List.mem_filter.mp hv).2)).2]

/-- Matches with a property that is never behind them are sorted on their own. -/
theorem Match.mergeSort_eq_append {ms : List (Match σ)} {p : IndexedValue → Bool}
    (h : Scale.Orders (ms.map Match.score))
    (hfront : ∀ m ∈ ms, ∀ n ∈ ms, m.le n = true → p n.value = true → p m.value = true) :
    ms.mergeSort Match.le =
      (ms.filter fun m => p m.value).mergeSort Match.le ++
        (ms.filter fun m => !p m.value).mergeSort Match.le := by
  have hmem : ∀ m ∈ ms, m.score ∈ ms.map Match.score := fun m hm => List.mem_map_of_mem hm
  refine DocIndex.mergeSort_eq_append ?_ ?_ hfront
  · intro a ha b hb c hc
    exact h.trans _ (hmem a ha) _ (hmem b hb) _ (hmem c hc)
  · intro a ha b hb
    exact h.total _ (hmem a ha) _ (hmem b hb)

/-- Sorting moves nothing where the scores are equal. -/
theorem Match.mergeSort_map_mk {score : σ} (hrefl : Scale.le score score = true)
    (values : List IndexedValue) :
    (values.map fun v => (⟨score, v⟩ : Match σ)).mergeSort Match.le =
      values.map fun v => ⟨score, v⟩ := by
  refine List.mergeSort_of_pairwise ?_
  rw [List.pairwise_map]
  exact List.pairwise_of_forall fun _ _ => hrefl

end

structure Scale.TellsNames (σ : Type) [Scale σ] : Prop extends RanksNames σ where
  strict : (nameScores σ).Pairwise fun x y => Scale.le x y = true ∧ Scale.le y x = false

theorem Scale.tellsNames_float : TellsNames Float where
  toRanksNames := ranksNames_float
  strict := by decide +kernel

namespace Scale.TellsNames

variable {σ : Type} [Scale σ] (h : TellsNames σ)

include h

theorem le_self {x : σ} (hx : x ∈ nameScores σ) : le x x = true := by
  simpa using h.orders.total x hx x hx

theorem slight_le_low : le (slight : σ) low = true := by
  have hstrict := h.strict
  simp only [nameScores, List.pairwise_cons, List.mem_cons] at hstrict
  exact (hstrict.2.1 low (.inl rfl)).1

theorem not_unrelated_le_low : le (unrelated : σ) low = false := by
  have hstrict := h.strict
  simp only [nameScores, List.pairwise_cons, List.mem_cons] at hstrict
  exact (hstrict.2.2.1 unrelated (.inl rfl)).2

theorem not_le_perfect {x : σ} (hx : x ∈ [slight, low, unrelated]) : le x perfect = false :=
  ((List.pairwise_cons.mp h.strict).1 x hx).2

theorem not_le_slight {x : σ} (hx : x ∈ [low, unrelated]) : le x slight = false :=
  ((List.pairwise_cons.mp (List.pairwise_cons.mp h.strict).2).1 x hx).2

end Scale.TellsNames

section

variable {σ : Type} [Scale σ] {resembles : Text → Text → Bool} {query name : Text}

/-- A name that does not start with the query is worse than one that does. -/
theorem le_slight_of_not_starting (hσ : Scale.TellsNames σ) (hquery : nameCore query ≠ [])
    (h : ¬ nameCore query <+: nameCore name) :
    Scale.le (nameDistance resembles query name : σ) Scale.slight = false := by
  refine hσ.not_le_slight ?_
  rw [nameDistance_of_not_starting hquery h]
  split <;> simp

/-- A name that is not the query's is worse than one that is. -/
theorem le_perfect_of_ne (hσ : Scale.TellsNames σ) (hquery : nameCore query ≠ [])
    (h : nameCore name ≠ nameCore query) :
    Scale.le (nameDistance resembles query name : σ) Scale.perfect = false := by
  refine hσ.not_le_perfect ?_
  by_cases hbegins : nameCore query <+: nameCore name
  · rw [nameDistance_of_starting hquery h hbegins]
    simp
  · rw [nameDistance_of_not_starting hquery hbegins]
    split <;> simp

def IndexedValue.isNamed (query : Text) (v : IndexedValue) : Bool :=
  nameCore v.entry.name = nameCore query

def IndexedValue.nameStarts (query : Text) (v : IndexedValue) : Bool :=
  nameCore query <+: nameCore v.entry.name

section

variable (hσ : Scale.TellsNames σ) (resembles) (values : List IndexedValue)

include hσ

theorem filter_isNamed_hits (hquery : nameCore query ≠ []) :
    ((Query.name query).hits resembles values : List (Match σ)).filter
        (fun m => m.value.isNamed query) =
      (values.filter fun v => nameCore v.entry.name = nameCore query).map
        fun v => ⟨Scale.perfect, v⟩ := by
  have hlow : Scale.le (Scale.perfect : σ) Scale.low = true :=
    hσ.perfect_le _ (by simp [nameScores])
  refine Query.filter_hits hlow (fun v hv => ?_) (fun v hv hne => ?_) values
  · exact ⟨decide_eq_true hv, nameDistance_of_eq hquery hv⟩
  · exact absurd (of_decide_eq_true hv) hne

theorem filter_nameStarts_hits (hquery : nameCore query ≠ []) :
    ((Query.name query).hits resembles values : List (Match σ)).filter
        (fun m => m.value.nameStarts query && !m.value.isNamed query) =
      (values.filter fun v => nameCore v.entry.name ≠ nameCore query ∧
        nameCore query <+: nameCore v.entry.name).map fun v => ⟨Scale.slight, v⟩ := by
  refine Query.filter_hits (p := fun v => v.nameStarts query && !v.isNamed query)
    hσ.slight_le_low (fun v hv => ?_) (fun v hv hne => ?_) values
  · refine ⟨?_, nameDistance_of_starting hquery hv.1 hv.2⟩
    simp [IndexedValue.nameStarts, IndexedValue.isNamed, hv.1, hv.2]
  · simp only [IndexedValue.nameStarts, IndexedValue.isNamed, Bool.and_eq_true,
      Bool.not_eq_true', decide_eq_true_eq, decide_eq_false_iff_not] at hv
    exact absurd ⟨hv.2, hv.1⟩ hne

theorem filter_other_hits (hquery : nameCore query ≠ []) :
    ((Query.name query).hits resembles values : List (Match σ)).filter
        (fun m => !m.value.nameStarts query && !m.value.isNamed query) =
      (values.filter fun v => ¬ nameCore query <+: nameCore v.entry.name ∧
        (nameCore query <:+: nameCore v.entry.name ∨
          resembles (nameCore query) (nameCore v.entry.name) = true)).map
        fun v => ⟨Scale.low, v⟩ := by
  have hlow : Scale.le (Scale.low : σ) Scale.low = true := hσ.le_self (by simp [nameScores])
  refine Query.filter_hits (p := fun v => !v.nameStarts query && !v.isNamed query) hlow
    (fun v hv => ?_) (fun v hv hne => ?_) values
  · have hname : nameCore v.entry.name ≠ nameCore query :=
      fun heq => hv.1 (heq ▸ List.prefix_rfl)
    refine ⟨?_, (nameDistance_of_not_starting hquery hv.1).trans (if_pos hv.2)⟩
    simp [IndexedValue.nameStarts, IndexedValue.isNamed, hv.1, hname]
  · simp only [IndexedValue.nameStarts, Bool.and_eq_true, Bool.not_eq_true',
      decide_eq_false_iff_not] at hv
    have hscore : (Query.name query).score resembles v = (Scale.unrelated : σ) :=
      (nameDistance_of_not_starting hquery hv.1).trans (if_neg fun h => hne ⟨hv.1, h⟩)
    rw [hscore]
    exact hσ.not_unrelated_le_low

/-- The matches of a search by name, tier by tier. -/
theorem mergeSort_hits_name (hquery : nameCore query ≠ []) :
    ((Query.name query).hits resembles values : List (Match σ)).mergeSort Match.le =
      (values.filter fun v => nameCore v.entry.name = nameCore query).map
        (fun v => ⟨Scale.perfect, v⟩) ++
      (values.filter fun v => nameCore v.entry.name ≠ nameCore query ∧
        nameCore query <+: nameCore v.entry.name).map (fun v => ⟨Scale.slight, v⟩) ++
      (values.filter fun v => ¬ nameCore query <+: nameCore v.entry.name ∧
        (nameCore query <:+: nameCore v.entry.name ∨
          resembles (nameCore query) (nameCore v.entry.name) = true)).map
        (fun v => ⟨Scale.low, v⟩) := by
  let hits : List (Match σ) := (Query.name query).hits resembles values
  let others := hits.filter fun m => !m.value.isNamed query
  have horders : ∀ ms ⊆ hits, Scale.Orders (ms.map Match.score) := fun ms hms =>
    hσ.orders.subset
      (List.forall_mem_map.mpr fun m hm => Query.score_mem_nameScores resembles (hms hm))
  have hscore : ∀ m ∈ hits, m.score = nameDistance resembles query m.value.entry.name := by
    intro m hm
    obtain ⟨v, -, rfl⟩ := List.mem_map.mp (List.mem_filter.mp hm).1
    rfl
  have hnamed : hits.mergeSort Match.le =
      (hits.filter fun m => m.value.isNamed query).mergeSort Match.le ++
        others.mergeSort Match.le := by
    refine Match.mergeSort_eq_append (horders hits (List.Subset.refl _)) ?_
    intro m hm n hn hle hnamed
    rw [Match.le, hscore m hm, hscore n hn,
      nameDistance_of_eq hquery (of_decide_eq_true hnamed)] at hle
    refine decide_eq_true (by_contra fun hne => ?_)
    rw [le_perfect_of_ne hσ hquery hne] at hle
    cases hle
  have hstarts : others.mergeSort Match.le =
      (others.filter fun m => m.value.nameStarts query).mergeSort Match.le ++
        (others.filter fun m => !m.value.nameStarts query).mergeSort Match.le := by
    refine Match.mergeSort_eq_append (horders others (List.filter_subset_self _)) ?_
    intro m hm n hn hle hstarts
    obtain ⟨hn, hother⟩ := List.mem_filter.mp hn
    have hne : nameCore n.value.entry.name ≠ nameCore query := by
      simpa [IndexedValue.isNamed] using hother
    rw [Match.le, hscore m (List.mem_filter.mp hm).1, hscore n hn,
      nameDistance_of_starting hquery hne (of_decide_eq_true hstarts)] at hle
    refine decide_eq_true (by_contra fun hbegins => ?_)
    rw [le_slight_of_not_starting hσ hquery hbegins] at hle
    cases hle
  have hsorted : ∀ score ∈ nameScores σ, ∀ vs : List IndexedValue,
      (vs.map fun v => (⟨score, v⟩ : Match σ)).mergeSort Match.le = vs.map fun v => ⟨score, v⟩ :=
    fun score hmem vs => Match.mergeSort_map_mk (hσ.le_self hmem) vs
  rw [hnamed, hstarts, List.filter_filter, List.filter_filter,
    filter_isNamed_hits resembles hσ values hquery,
    filter_nameStarts_hits resembles hσ values hquery,
    filter_other_hits resembles hσ values hquery, hsorted _ (by simp [nameScores]),
    hsorted _ (by simp [nameScores]), hsorted _ (by simp [nameScores]), List.append_assoc]

theorem hits_name_of_core_nil (hquery : nameCore query = []) :
    ((Query.name query).hits resembles values : List (Match σ)) = [] := by
  refine List.filter_eq_nil_iff.mpr (List.forall_mem_map.mpr fun v _ => ?_)
  have hscore : (Query.name query).score resembles v = (Scale.unrelated : σ) :=
    nameDistance_of_core_nil hquery
  change ¬ Scale.le ((Query.name query).score resembles v : σ) Scale.low = true
  rw [hscore, hσ.not_unrelated_le_low]
  exact Bool.false_ne_true

end

end

/-- A search by name lists the values with the name that is asked for, those whose name starts with
it and those whose name contains or resembles it, each in index order. Nothing that contains the
query is left out, and a query without a core finds nothing. -/
theorem rank_name_tiers {query : Text} (hquery : Query.ofText query = .name query)
    (resembles : Text → Text → Bool) (values : List IndexedValue) :
    let core (v : IndexedValue) : Text := nameCore v.entry.name
    let ranking : Ranking Float := rank resembles query values
    (nameCore query = [] →
      ranking = (if query = [] then .introduction else .nothing) ∧ ranking.toList = []) ∧
    (nameCore query ≠ [] →
      ranking.toList =
        (values.filter fun v => core v = nameCore query).map (fun v => ⟨0.0, v⟩) ++
        (values.filter fun v => core v ≠ nameCore query ∧ nameCore query <+: core v).map
          (fun v => ⟨0.125, v⟩) ++
        (values.filter fun v => ¬ nameCore query <+: core v ∧
          (nameCore query <:+: core v ∨ resembles (nameCore query) (core v) = true)).map
          (fun v => ⟨0.25, v⟩) ∧
      ∀ v ∈ values, nameCore query <:+: core v → v ∈ ranking.toList.map Match.value) := by
  intro core ranking
  have hranking : ranking = if query.isEmpty then .introduction
      else .ofMatches (((Query.name query).hits resembles values).mergeSort Match.le) := by
    rw [← hquery]
    exact rank_eq resembles query values
  constructor
  · intro hcore
    rw [hits_name_of_core_nil resembles Scale.tellsNames_float values hcore] at hranking
    have hnothing : ranking = if query = [] then .introduction else .nothing := by
      simpa [Ranking.ofMatches] using hranking
    refine ⟨hnothing, ?_⟩
    rw [hnothing]
    split <;> rfl
  · intro hcore
    have hne : ¬ query.isEmpty = true := by
      rintro hempty
      rw [List.isEmpty_iff.mp hempty] at hcore
      exact hcore rfl
    have htiers := mergeSort_hits_name resembles Scale.tellsNames_float values hcore
    rw [if_neg hne] at hranking
    rw [← Ranking.toList_ofMatches (List.mergeSort _ _), ← hranking] at htiers
    refine ⟨htiers, fun v hv hpart => ?_⟩
    rw [htiers, List.map_append, List.map_append, List.mem_append, List.mem_append]
    have hmap : ∀ {kept : IndexedValue → Bool} (score : Float), kept v = true →
        v ∈ ((values.filter kept).map fun v => (⟨score, v⟩ : Match Float)).map Match.value :=
      fun score hkept => List.mem_map.mpr
        ⟨⟨score, v⟩, List.mem_map_of_mem (List.mem_filter.mpr ⟨hv, hkept⟩), rfl⟩
    by_cases hbegins : nameCore query <+: core v
    · by_cases hnamed : core v = nameCore query
      · exact .inl (.inl (hmap 0.0 (decide_eq_true hnamed)))
      · exact .inl (.inr (hmap 0.125 (decide_eq_true ⟨hnamed, hbegins⟩)))
    · exact .inr (hmap 0.25 (decide_eq_true ⟨hbegins, .inl hpart⟩))

/-- The tiers where nothing resembles anything, and a query that has no core. -/
theorem rank_name_tiers_fold :
    let values := [namedValue "unfold", namedValue "foldl", namedValue "Fold", namedValue "fold"]
    Query.ofText "fold" = .name "fold" ∧
      (rank (fun _ _ => false) "fold" values : Ranking Float).toList =
        [⟨0.0, namedValue "Fold"⟩, ⟨0.0, namedValue "fold"⟩, ⟨0.125, namedValue "foldl"⟩,
          ⟨0.25, namedValue "unfold"⟩] ∧
      Query.ofText "(" = .name "(" ∧
      (rank (fun _ _ => false) "(" values : Ranking Float) = .nothing := by
  intro values
  have hword : Query.ofText "fold" = .name "fold" := rfl
  have hparenthesis : Query.ofText "(" = .name "(" := rfl
  refine ⟨hword, ?_, hparenthesis, ?_⟩
  · rw [((rank_name_tiers hword (fun _ _ => false) values).2 (by decide +kernel)).1]
    rfl
  · exact ((rank_name_tiers hparenthesis (fun _ _ => false) values).1 (by decide +kernel)).1

end DocIndex
