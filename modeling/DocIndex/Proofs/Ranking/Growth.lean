import DocIndex.Proofs.Ranking.Permuted
import DocIndex.Proofs.Scale
import DocIndex.Proofs.State.Coherence

/-!
Search results only grow. What a session learns later adds matches to a ranking, between the earlier
ones and after them, and leaves the earlier ones where they stand to each other.
-/
namespace DocIndex

section

variable {α : Type} {le : α → α → Bool}

/-- An element is sorted in right before all that it is in order with. -/
theorem exists_mergeSort_cons (trans : ∀ a b c, le a b = true → le b c = true → le a c = true)
    (total : ∀ a b, (le a b || le b a) = true) (a : α) (xs : List α) :
    ∃ before after, (a :: xs).mergeSort le = before ++ a :: after ∧
      xs.mergeSort le = before ++ after ∧
      (∀ b ∈ before, le a b = false) ∧ ∀ b ∈ after, le a b = true := by
  obtain ⟨before, after, hcons, hxs, hbefore⟩ := List.mergeSort_cons trans total a xs
  have hsorted := List.pairwise_mergeSort trans total (a :: xs)
  rw [hcons, List.pairwise_append, List.pairwise_cons] at hsorted
  exact ⟨before, after, hcons, hxs, fun b hb => by simpa using hbefore b hb, hsorted.2.1.1⟩

/-- A list is cut in one way only into elements without a property and elements with it. -/
theorem append_inj_of_forall {p : α → Bool} {xs ys xs' ys' : List α} (h : xs ++ ys = xs' ++ ys')
    (hxs : ∀ a ∈ xs, p a = false) (hys : ∀ a ∈ ys, p a = true)
    (hxs' : ∀ a ∈ xs', p a = false) (hys' : ∀ a ∈ ys', p a = true) : xs = xs' ∧ ys = ys' := by
  have hcount : ∀ us vs : List α, (∀ a ∈ us, p a = false) → (∀ a ∈ vs, p a = true) →
      (us ++ vs).filter p = vs := fun us vs hus hvs => by
    rw [List.filter_append, List.filter_eq_nil_iff.mpr fun a ha => by simp [hus a ha],
      List.filter_eq_self.mpr hvs, List.nil_append]
  have hafter : ys = ys' := by rw [← hcount xs ys hxs hys, h, hcount xs' ys' hxs' hys']
  exact ⟨List.append_cancel_right (hafter ▸ h), hafter⟩

/-- Sorting is stable, so elements may be left out before it or after it. -/
theorem filter_mergeSort (trans : ∀ a b c, le a b = true → le b c = true → le a c = true)
    (total : ∀ a b, (le a b || le b a) = true) (p : α → Bool) (xs : List α) :
    (xs.mergeSort le).filter p = (xs.filter p).mergeSort le := by
  induction xs with
  | nil => simp
  | cons a xs ih =>
    obtain ⟨before, after, hcons, hxs, hbefore, hafter⟩ := exists_mergeSort_cons trans total a xs
    rw [hxs, List.filter_append] at ih
    rw [hcons, List.filter_append]
    cases ha : p a with
    | false =>
      have hneg : ¬ p a = true := by simp [ha]
      rw [List.filter_cons_of_neg hneg, List.filter_cons_of_neg hneg, ih]
    | true =>
      obtain ⟨before', after', hcons', hxs', hbefore', hafter'⟩ :=
        exists_mergeSort_cons trans total a (xs.filter p)
      obtain ⟨rfl, rfl⟩ := append_inj_of_forall (ih.trans hxs')
        (fun b hb => hbefore b (List.mem_filter.mp hb).1)
        (fun b hb => hafter b (List.mem_filter.mp hb).1) hbefore' hafter'
      rw [List.filter_cons_of_pos ha, List.filter_cons_of_pos ha, hcons']

/-- Only the sorted elements need to be in order. -/
theorem filter_mergeSort_of_mem {xs : List α}
    (trans : ∀ a ∈ xs, ∀ b ∈ xs, ∀ c ∈ xs, le a b = true → le b c = true → le a c = true)
    (total : ∀ a ∈ xs, ∀ b ∈ xs, (le a b || le b a) = true) (p : α → Bool) :
    (xs.mergeSort le).filter p = (xs.filter p).mergeSort le := by
  let below (a b : {a // a ∈ xs}) : Bool := le a.1 b.1
  have hfilter : (xs.attach.mergeSort below).filter (p ∘ Subtype.val) =
      (xs.attach.filter (p ∘ Subtype.val)).mergeSort below :=
    filter_mergeSort (fun a b c => trans a.1 a.2 b.1 b.2 c.1 c.2)
      (fun a b => total a.1 a.2 b.1 b.2) _ _
  rw [← map_val_mergeSort_attach, List.filter_map, hfilter,
    List.map_mergeSort (s := le) fun a _ b _ => rfl, ← List.filter_map, List.attach_map_subtype_val]

end

section

variable {σ : Type} [Scale σ] (resembles : Text → Text → Bool)

/-- The hits of a query with the places of their values, which are counted from a start. -/
def Query.placedHits (q : Query) (start : Nat) (values : List IndexedValue) :
    List (Match σ × Nat) :=
  ((values.zipIdx start).map fun v => (⟨q.score resembles v.1, v.1⟩, v.2)).filter fun m =>
    Scale.le m.1.score Scale.low

def placedMatches (query : Text) (values : List IndexedValue) : List (Match σ × Nat) :=
  ((Query.ofText query).placedHits resembles 0 values).mergeSort fun m n => m.1.le n.1

namespace Query

theorem map_fst_placedHits (q : Query) (start : Nat) (values : List IndexedValue) :
    (q.placedHits resembles start values : List (Match σ × Nat)).map Prod.fst =
      q.hits resembles values := by
  let scored (v : IndexedValue) : Match σ := ⟨q.score resembles v, v⟩
  let placed := (values.zipIdx start).map fun v => (scored v.1, v.2)
  have hfst : placed.map Prod.fst = values.map scored :=
    calc placed.map Prod.fst = ((values.zipIdx start).map Prod.fst).map scored := by
          rw [List.map_map, List.map_map]
          rfl
      _ = values.map scored := by rw [List.zipIdx_map_fst]
  have hfilter := List.filter_map (f := Prod.fst) (p := fun m => Scale.le m.score Scale.low)
    (l := placed)
  rw [hfst] at hfilter
  exact hfilter.symm

theorem placedHits_append (q : Query) (start : Nat) (values more : List IndexedValue) :
    (q.placedHits resembles start (values ++ more) : List (Match σ × Nat)) =
      q.placedHits resembles start values ++
        q.placedHits resembles (start + values.length) more := by
  rw [placedHits, List.zipIdx_append, List.map_append, List.filter_append]
  rfl

theorem of_mem_placedHits {q : Query} {start : Nat} {values : List IndexedValue}
    {m : Match σ × Nat} (h : m ∈ q.placedHits resembles start values) :
    start ≤ m.2 ∧ m.2 < start + values.length ∧ values[m.2 - start]? = some m.1.value ∧
      m.1.score = q.score resembles m.1.value ∧ Scale.le m.1.score Scale.low = true := by
  obtain ⟨hmem, hlow⟩ := List.mem_filter.mp h
  obtain ⟨v, hv, rfl⟩ := List.mem_map.mp hmem
  have hget := List.mem_zipIdx_iff_le_and_getElem?_sub.mp hv
  exact ⟨hget.1, List.snd_lt_add_of_mem_zipIdx hv, hget.2, rfl, hlow⟩

/-- The hits among the first values are those with the first places. -/
theorem filter_placedHits_append (q : Query) (values more : List IndexedValue) :
    (q.placedHits resembles 0 (values ++ more) : List (Match σ × Nat)).filter
        (fun m => m.2 < values.length) =
      q.placedHits resembles 0 values := by
  have hfirst : ∀ m ∈ (q.placedHits resembles 0 values : List (Match σ × Nat)),
      decide (m.2 < values.length) = true := fun m hm => by
    simpa using (of_mem_placedHits resembles hm).2.1
  have hrest : ∀ m ∈ (q.placedHits resembles (0 + values.length) more : List (Match σ × Nat)),
      ¬ decide (m.2 < values.length) = true := fun m hm => by
    simpa using (of_mem_placedHits resembles hm).1
  rw [placedHits_append, List.filter_append, List.filter_eq_self.mpr hfirst,
    List.filter_eq_nil_iff.mpr hrest, List.append_nil]

end Query

/-- Without the places the matches are those of the ranking. -/
theorem map_fst_placedMatches {query : Text} (h : query ≠ []) (values : List IndexedValue) :
    (placedMatches resembles query values : List (Match σ × Nat)).map Prod.fst =
      (rank resembles query values).toList := by
  rw [placedMatches, List.map_mergeSort (s := Match.le) fun a _ b _ => rfl,
    Query.map_fst_placedHits, rank_eq, if_neg (by simpa using h), Ranking.toList_ofMatches]

/-- A match has the value of its place, with the score of that value. -/
theorem of_mem_placedMatches {query : Text} {values : List IndexedValue} {m : Match σ × Nat}
    (h : m ∈ placedMatches resembles query values) :
    values[m.2]? = some m.1.value ∧
      m.1.score = (Query.ofText query).score resembles m.1.value := by
  obtain ⟨-, -, hvalue, hscore, -⟩ := Query.of_mem_placedHits resembles (List.mem_mergeSort.mp h)
  exact ⟨hvalue, hscore⟩

/-- The matches among the first values are those with the first places, in the same order. -/
theorem filter_placedMatches_append (hs : Scale.Sorts σ) (query : Text)
    (values more : List IndexedValue) :
    (placedMatches resembles query (values ++ more) : List (Match σ × Nat)).filter
        (fun m => m.2 < values.length) =
      placedMatches resembles query values := by
  have hhits := Query.filter_placedHits_append resembles (σ := σ) (Query.ofText query) values more
  rw [placedMatches, filter_mergeSort_of_mem, hhits, placedMatches]
  · intro a _ b _ c _
    exact hs.trans a.1.score b.1.score c.1.score
  · intro a ha b hb
    obtain ⟨-, -, -, -, hlow⟩ := Query.of_mem_placedHits resembles ha
    obtain ⟨-, -, -, -, hlow'⟩ := Query.of_mem_placedHits resembles hb
    exact hs.total a.1.score b.1.score hlow hlow'

end

/-- Only a failed catalog takes values away: any other event leaves them where they are. -/
theorem State.after_indexed (i : Index) {e : Event} (h : e.catalogError? = none) :
    ∃ j, (State.indexed i).after e = .indexed j ∧ i.values <+: j.values := by
  cases e with
  | catalogArrived c => exact ⟨i, rfl, List.prefix_rfl⟩
  | catalogFailed e => cases h
  | docsArrived r d => exact ⟨i.addDocs r d, rfl, List.prefix_append _ _⟩
  | docsFailed l => exact ⟨i.addFailure l, rfl, List.prefix_rfl⟩
  | queryChanged query => exact ⟨{ i with query }, rfl, List.prefix_rfl⟩

theorem State.afterAll_append (s : State) (log more : Log) :
    s.afterAll (log ++ more) = (s.afterAll log).afterAll more := List.foldl_append

theorem State.afterAll_indexed (i : Index) {events : List Event}
    (h : ∀ e ∈ events, e.catalogError? = none) :
    ∃ j, (State.indexed i).afterAll events = .indexed j ∧ i.values <+: j.values := by
  induction events generalizing i with
  | nil => exact ⟨i, rfl, List.prefix_rfl⟩
  | cons e events ih =>
    rw [List.forall_mem_cons] at h
    obtain ⟨j, hj, hij⟩ := after_indexed i h.1
    obtain ⟨k, hk, hjk⟩ := ih j h.2
    refine ⟨k, ?_, hij.trans hjk⟩
    rw [afterAll, List.foldl_cons, hj]
    exact hk

/-- Whatever happens later, unless the catalog fails, the index only grows at its end, and every
query keeps its matches. They have the same values at the same places in the index, the same scores
and the same order as before, and the matches that are new have later places. -/
theorem Log.matches_grow {log more : Log} {i : Index}
    (hlog : State.waiting.afterAll log = .indexed i) (hmore : ∀ e, .catalogFailed e ∉ more) :
    ∃ j, State.waiting.afterAll (log ++ more) = .indexed j ∧ i.values <+: j.values ∧
      ∀ (resembles : Text → Text → Bool) (query : Text), query ≠ [] →
        (∀ values, (placedMatches resembles query values : List (Match Float × Nat)).map Prod.fst =
          (rank resembles query values).toList) ∧
        (∀ m ∈ (placedMatches resembles query j.values : List (Match Float × Nat)),
          j.values[m.2]? = some m.1.value ∧
            m.1.score = (Query.ofText query).score resembles m.1.value) ∧
        (placedMatches resembles query i.values : List (Match Float × Nat)) =
          (placedMatches resembles query j.values).filter (fun m => m.2 < i.values.length) ∧
        (placedMatches resembles query i.values : List (Match Float × Nat)).Sublist
          (placedMatches resembles query j.values) := by
  have hcatalog : ∀ e ∈ more, e.catalogError? = none := by
    intro e he
    cases e with
    | catalogFailed e => exact absurd he (hmore e)
    | _ => rfl
  obtain ⟨j, hj, hgrow⟩ := State.afterAll_indexed i hcatalog
  refine ⟨j, ?_, hgrow, fun resembles query hquery => ?_⟩
  · rw [State.afterAll_append, hlog, hj]
  · obtain ⟨rest, hrest⟩ := hgrow
    have hkept := filter_placedMatches_append resembles Scale.sorts_float query i.values rest
    rw [hrest] at hkept
    refine ⟨map_fst_placedMatches resembles hquery,
      fun m hm => of_mem_placedMatches resembles hm, hkept.symm, ?_⟩
    rw [← hkept]
    exact List.filter_sublist

/-- A release is loaded late, and the one that was there before is loaded again. -/
theorem Log.matches_grow_reloads :
    State.waiting.afterAll (reloads.take 2) = .indexed (Log.index (reloads.take 2)) ∧
    (Log.index (reloads.take 2)).values.length = 1 ∧ reloads.index.values.length = 3 ∧
    ∀ resembles : Text → Text → Bool,
      (rank resembles "x" (Log.index (reloads.take 2)).values : Ranking Float).toList.Sublist
        (rank resembles "x" reloads.index.values).toList := by
  have hlog : State.waiting.afterAll (reloads.take 2) = .indexed (Log.index (reloads.take 2)) :=
    (afterAll_waiting _).trans rfl
  have hmore : ∀ e, Event.catalogFailed e ∉ reloads.drop 2 := by
    intro e he
    simp [reloads] at he
  refine ⟨hlog, rfl, rfl, fun resembles => ?_⟩
  obtain ⟨j, hj, -, hgrow⟩ := matches_grow hlog hmore
  obtain ⟨hrank, -, -, hkept⟩ := hgrow resembles "x" (by decide)
  have hindex : j = reloads.index := by
    rw [List.take_append_drop, afterAll_waiting] at hj
    exact index_of_state hj
  rw [← hrank, ← hrank, ← hindex]
  exact hkept.map Prod.fst

end DocIndex
