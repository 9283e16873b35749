import DocIndex.Proofs.Ranking.Growth
import DocIndex.Proofs.Ranking.NameSearch
import DocIndex.Proofs.Ranking.Scores

/-!
What a ranking holds and in which order. Every place of the index whose score is within the least
penalty is matched once, better scores come first, and equal scores stay in the order of the index.
-/
namespace DocIndex

section

variable {α : Type} {le : α → α → Bool} {R : α → α → Prop}

/-- Sorting keeps what held between the elements from left to right wherever it may. -/
theorem pairwise_mergeSort_stable
    (trans : ∀ a b c, le a b = true → le b c = true → le a c = true)
    (total : ∀ a b, (le a b || le b a) = true) {xs : List α} (hR : xs.Pairwise R) :
    (xs.mergeSort le).Pairwise fun a b => le a b = true ∧ (le b a = true → R a b) := by
  induction xs with
  | nil => simp
  | cons a xs ih =>
    obtain ⟨ha, hxs⟩ := List.pairwise_cons.mp hR
    obtain ⟨before, after, hcons, hsorted, hbefore, hafter⟩ :=
      exists_mergeSort_cons trans total a xs
    have hrest := ih hxs
    rw [hsorted, List.pairwise_append] at hrest
    obtain ⟨hfront, hback, hacross⟩ := hrest
    rw [hcons, List.pairwise_append, List.pairwise_cons]
    refine ⟨hfront, ⟨fun b hb => ⟨hafter b hb, fun _ => ?_⟩, hback⟩, fun b hb c hc => ?_⟩
    · have hmem : b ∈ xs.mergeSort le := hsorted ▸ List.mem_append_right before hb
      exact ha b (List.mem_mergeSort.mp hmem)
    · rcases List.mem_cons.mp hc with rfl | hc
      · have htotal := total b c
        rw [hbefore b hb, Bool.or_false] at htotal
        exact ⟨htotal, fun hle => absurd hle (by simp [hbefore b hb])⟩
      · exact hacross b hb c hc

/-- Only the sorted elements need to be in order. -/
theorem pairwise_mergeSort_stable_of_mem {xs : List α}
    (trans : ∀ a ∈ xs, ∀ b ∈ xs, ∀ c ∈ xs, le a b = true → le b c = true → le a c = true)
    (total : ∀ a ∈ xs, ∀ b ∈ xs, (le a b || le b a) = true) (hR : xs.Pairwise R) :
    (xs.mergeSort le).Pairwise fun a b => le a b = true ∧ (le b a = true → R a b) := by
  let below (a b : {a // a ∈ xs}) : Bool := le a.1 b.1
  have hattach : xs.attach.Pairwise fun a b => R a.1 b.1 := by
    rw [← List.pairwise_map, List.attach_map_subtype_val]
    exact hR
  have hsorted : (xs.attach.mergeSort below).Pairwise fun a b =>
      below a b = true ∧ (below b a = true → R a.1 b.1) :=
    pairwise_mergeSort_stable (fun a b c => trans a.1 a.2 b.1 b.2 c.1 c.2)
      (fun a b => total a.1 a.2 b.1 b.2) hattach
  rw [← map_val_mergeSort_attach, List.pairwise_map]
  exact hsorted

end

namespace Scale

open Float.Model UnpackedFloat

theorem unpacked_lt_of_le {x y : UnpackedFloat} (h : x.le y = true) (h' : y.le x = false) :
    x.lt y = true := by
  obtain ⟨o, ho, hle⟩ := Option.any_eq_true _ _ |>.mp h
  cases o with
  | lt => exact beq_iff_eq.mpr ho
  | gt => cases hle
  | eq =>
    have hequal : x.beq y = true := beq_iff_eq.mpr ho
    rcases ((beq_iff_ne_notANumber_and_eq x y).mp hequal).2.2 with rfl | ⟨rfl, rfl⟩ | ⟨rfl, rfl⟩
    · rw [h] at h'
      cases h'
    · cases h'
    · cases h'

theorem float_lt_of_le {x y : Float} (h : le x y = true) (h' : le y x = false) : x < y := by
  have hle : x.toModel.unpack.le y.toModel.unpack = true := of_decide_eq_true (of_decide_eq_true h)
  have hle' : y.toModel.unpack.le x.toModel.unpack = false := by
    rw [Bool.eq_false_iff]
    intro hback
    have hback' : le y x = true := decide_eq_true (decide_eq_true hback)
    rw [h'] at hback'
    cases hback'
  exact decide_eq_true (unpacked_lt_of_le hle hle')

end Scale

section

variable {σ : Type} [Scale σ] (resembles : Text → Text → Bool)

/-- Whether a query compares names or types, and what it compares. -/
theorem Query.score_ofText (query : Text) (v : IndexedValue) :
    ((ofText query).score resembles v : σ) =
      if (Ty.ofSignature query).normalize.isVar then nameDistance resembles query v.entry.name
      else (Ty.ofSignature query).normalize.distance v.canonical := by
  rw [ofText]
  split <;> rfl

theorem rank_eq_introduction_iff {query : Text} {values : List IndexedValue} :
    (rank resembles query values : Ranking σ) = .introduction ↔ query = [] := by
  rw [rank_eq]
  split
  next hempty => simpa using hempty
  next hne =>
    refine iff_of_false ?_ (by simpa using hne)
    unfold Ranking.ofMatches
    split <;> simp

theorem rank_ne_found_nil (query : Text) (values : List IndexedValue) :
    (rank resembles query values : Ranking σ) ≠ .found [] := by
  rw [rank_eq]
  split
  · simp
  · unfold Ranking.ofMatches
    split
    · simp
    next ms hms => simpa using hms

/-- A query text without any match is told apart from no query text. -/
theorem rank_eq_nothing_iff {query : Text} (hquery : query ≠ []) {values : List IndexedValue} :
    (rank resembles query values : Ranking σ) = .nothing ↔
      ∀ v ∈ values, Scale.le ((Query.ofText query).score resembles v : σ) Scale.low = false := by
  have hempty : (rank resembles query values : Ranking σ) = .nothing ↔
      (rank resembles query values : Ranking σ).toList = [] := by
    rw [rank_eq, if_neg (by simpa using hquery), Ranking.toList_ofMatches]
    unfold Ranking.ofMatches
    split <;> simp_all
  rw [hempty, List.eq_nil_iff_forall_not_mem]
  constructor
  · intro hnone v hv
    rw [Bool.eq_false_iff]
    exact fun hlow => hnone ⟨_, v⟩ ((mem_rank_iff resembles).mpr ⟨hquery, hv, rfl, hlow⟩)
  · intro hnone m hm
    obtain ⟨-, hvalue, hscore, hlow⟩ := (mem_rank_iff resembles).mp hm
    rw [hscore, hnone _ hvalue] at hlow
    cases hlow

theorem size_rank {query : Text} (hquery : query ≠ []) (values : List IndexedValue) :
    (rank resembles query values : Ranking σ).size =
      values.countP fun v =>
        Scale.le ((Query.ofText query).score resembles v : σ) Scale.low := by
  rw [Ranking.size, rank_eq, if_neg (by simpa using hquery), Ranking.toList_ofMatches,
    List.length_mergeSort, Query.hits, ← List.countP_eq_length_filter, List.countP_map]
  rfl

theorem Query.mem_placedHits_iff {q : Query} {values : List IndexedValue} {m : Match σ × Nat} :
    m ∈ q.placedHits resembles 0 values ↔
      values[m.2]? = some m.1.value ∧ m.1.score = q.score resembles m.1.value ∧
        Scale.le m.1.score Scale.low = true := by
  constructor
  · intro hm
    obtain ⟨-, -, hvalue, hscore, hlow⟩ := of_mem_placedHits resembles hm
    exact ⟨hvalue, hscore, hlow⟩
  · rintro ⟨hvalue, hscore, hlow⟩
    obtain ⟨⟨score, v⟩, i⟩ := m
    obtain rfl : score = q.score resembles v := hscore
    have hmem : (v, i) ∈ values.zipIdx := List.mem_zipIdx_iff_getElem?.mpr hvalue
    exact List.mem_filter.mpr ⟨List.mem_map.mpr ⟨(v, i), hmem, rfl⟩, hlow⟩

theorem Query.pairwise_placedHits (q : Query) (values : List IndexedValue) :
    (q.placedHits resembles 0 values : List (Match σ × Nat)).Pairwise fun m n => m.2 < n.2 := by
  have hplaces : values.zipIdx.Pairwise fun v w => v.2 < w.2 := by
    rw [← List.pairwise_map (R := fun i j : Nat => i < j), List.zipIdx_map_snd]
    exact List.pairwise_lt_range'
  have hscored : (values.zipIdx.map fun v =>
      ((⟨q.score resembles v.1, v.1⟩, v.2) : Match σ × Nat)).Pairwise fun m n => m.2 < n.2 :=
    List.pairwise_map.mpr hplaces
  exact hscored.filter _

end

/-- The matches come by score, and by place where scores are equal. -/
theorem pairwise_placedMatches (resembles : Text → Text → Bool) (query : Text)
    (values : List IndexedValue) :
    (placedMatches resembles query values : List (Match Float × Nat)).Pairwise fun m n =>
      m.1.score < n.1.score ∨ m.1.score = n.1.score ∧ m.2 < n.2 := by
  let q := Query.ofText query
  have hscores : ∀ m ∈ (q.placedHits resembles 0 values : List (Match Float × Nat)),
      Scale.UnsignedFloat m.1.score ∧ Scale.le m.1.score Scale.low = true := by
    intro m hm
    obtain ⟨-, hscore, hlow⟩ := (Query.mem_placedHits_iff resembles).mp hm
    exact ⟨hscore ▸ q.score_closed Scale.closed_unsignedFloat resembles m.1.value, hlow⟩
  have hsorted : (placedMatches resembles query values : List (Match Float × Nat)).Pairwise
      fun m n => m.1.le n.1 = true ∧ (n.1.le m.1 = true → m.2 < n.2) :=
    pairwise_mergeSort_stable_of_mem
      (fun a _ b _ c _ => Scale.sorts_float.trans a.1.score b.1.score c.1.score)
      (fun a ha b hb =>
        Scale.sorts_float.total a.1.score b.1.score (hscores a ha).2 (hscores b hb).2)
      (q.pairwise_placedHits resembles values)
  refine hsorted.imp_of_mem fun {m n} hm hn h => ?_
  obtain ⟨hle, hplace⟩ := h
  have hunsigned := (hscores m (List.mem_mergeSort.mp hm)).1
  have hunsigned' := (hscores n (List.mem_mergeSort.mp hn)).1
  cases hback : n.1.le m.1 with
  | false => exact .inl (Scale.float_lt_of_le hle hback)
  | true => exact .inr ⟨hunsigned.antisymm hunsigned' hle hback, hplace hback⟩

/-- A ranking holds the places of the index whose score is within the least penalty, each one once,
in the order of score and place, and nothing else. -/
theorem rank_exact (resembles : Text → Text → Bool) (query : Text) (values : List IndexedValue) :
    let score (v : IndexedValue) : Float :=
      if (Ty.ofSignature query).normalize.isVar then nameDistance resembles query v.entry.name
      else (Ty.ofSignature query).normalize.distance v.canonical
    let ranking : Ranking Float := rank resembles query values
    (ranking = .introduction ↔ query = []) ∧ ranking ≠ .found [] ∧
      (query ≠ [] →
        (ranking = .nothing ↔ ∀ v ∈ values, ¬ score v ≤ 0.25) ∧
        ranking.size = values.countP (fun v => score v ≤ 0.25) ∧
        ∃ placed : List (Match Float × Nat),
          placed.map Prod.fst = ranking.toList ∧ (placed.map Prod.snd).Nodup ∧
          (∀ m, m ∈ placed ↔
            values[m.2]? = some m.1.value ∧ m.1.score = score m.1.value ∧ m.1.score ≤ 0.25) ∧
          placed.Pairwise fun m n =>
            m.1.score < n.1.score ∨ m.1.score = n.1.score ∧ m.2 < n.2) := by
  intro score ranking
  have hscore : ∀ v, (Query.ofText query).score resembles v = score v :=
    Query.score_ofText resembles query
  have hlow : ∀ x : Float, Scale.le x Scale.low = true ↔ x ≤ 0.25 := fun x => decide_eq_true_iff
  refine ⟨rank_eq_introduction_iff resembles, rank_ne_found_nil resembles query values,
    fun hquery => ⟨?_, ?_, placedMatches resembles query values,
      map_fst_placedMatches resembles hquery values, ?_, fun m => ?_,
      pairwise_placedMatches resembles query values⟩⟩
  · simp only [ranking, rank_eq_nothing_iff resembles hquery, hscore, ← hlow,
      Bool.not_eq_true]
  · simp only [ranking, size_rank resembles hquery, hscore]
    rfl
  · have hperm : (placedMatches resembles query values : List (Match Float × Nat)).Perm
        ((Query.ofText query).placedHits resembles 0 values) := List.mergeSort_perm _ _
    rw [(hperm.map Prod.snd).nodup_iff, List.nodup_iff_pairwise_ne, List.pairwise_map]
    exact ((Query.ofText query).pairwise_placedHits resembles values).imp Nat.ne_of_lt
  · rw [placedMatches, List.mem_mergeSort, Query.mem_placedHits_iff, hscore, hlow]

def namedValue (name : Text) : IndexedValue :=
  .ofEntry "a/b/1.0.0" "M" name ⟨name, [], "Int"⟩

/-- The same value stands at two places of the index and is found at both. -/
theorem rank_exact_repeated :
    let values :=
      [namedValue "unfold", namedValue "fold", namedValue "filter", namedValue "fold"]
    let ranking : Ranking Float := rank (fun _ _ => false) "fold" values
    ranking.size = 3 ∧ ∃ placed : List (Match Float × Nat),
      placed.map Prod.fst = ranking.toList ∧ (placed.map Prod.snd).Nodup ∧
      (⟨0.0, namedValue "fold"⟩, 1) ∈ placed ∧ (⟨0.0, namedValue "fold"⟩, 3) ∈ placed := by
  intro values ranking
  obtain ⟨-, -, hfound⟩ := rank_exact (fun _ _ => false) "fold" values
  obtain ⟨-, hsize, placed, hplaced, hnodup, hmem, -⟩ := hfound (by decide)
  refine ⟨?_, placed, hplaced, hnodup, (hmem _).mpr ?_, (hmem _).mpr ?_⟩
  · rw [hsize]
    decide +kernel
  · exact ⟨rfl, by decide +kernel, by decide +kernel⟩
  · exact ⟨rfl, by decide +kernel, by decide +kernel⟩

end DocIndex
