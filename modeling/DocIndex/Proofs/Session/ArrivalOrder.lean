import DocIndex.Proofs.Ranking.Scores
import DocIndex.Proofs.Session.FanOut

/-!
The order in which fetches end does not matter: when a source answers a release always the same, two
sessions over one catalog end with the same releases, values and failures, and rank them alike.
-/
namespace DocIndex

theorem getLast?_eq_of_perm {α : Type} {xs ys : List α} (h : xs.Perm ys)
    (heq : ∀ a ∈ xs, ∀ b ∈ xs, a = b) : xs.getLast? = ys.getLast? := by
  cases hx : xs.getLast? with
  | none =>
    rw [List.getLast?_eq_none_iff] at hx
    rw [hx] at h
    rw [h.symm.eq_nil, List.getLast?_nil]
  | some a =>
    cases hy : ys.getLast? with
    | none =>
      rw [List.getLast?_eq_none_iff] at hy
      rw [hy] at h
      rw [h.eq_nil] at hx
      cases hx
    | some b =>
      have ha := List.mem_of_getLast? hx
      have hb := h.mem_iff.mpr (List.mem_of_getLast? hy)
      rw [heq a ha b hb]

namespace Session

variable {w : Answers} {s t : Session} {log log' : Log} {started started' : List Listing}
  {c : Catalog} {docs : Release → Option Docs}

/-- In the end there is an index if any listing is updated. -/
theorem Run.state_of_drained (run : Run w Unretried s log started) (hc : w.catalog = .ok c)
    (hd : s.Drained) :
    s.state = if c.recent = [] then .listed [] else .indexed log.index := by
  have hstarted : started = c.recent :=
    run.started_eq hc (run.catalog_of_drained hd hc) (by rw [hd.stage]; rfl)
  have hlen := (run.log_of_drained hd).2.length_eq
  rw [hstarted, List.length_map, Fetch.length_ofListings] at hlen
  rw [run.state_eq, Log.state, run.catalogErrors_eq_nil hc, run.catalogs_of_drained hd hc]
  by_cases hnil : c.recent = []
  · rw [hnil, List.length_nil, List.length_eq_zero_iff, Log.results_eq_nil_iff] at hlen
    simp [hlen, hnil]
  · have hresult : log.hasResult = true := by
      rw [← Bool.not_eq_false, ← Log.results_eq_nil_iff, ← List.length_eq_zero_iff, hlen,
        List.length_eq_zero_iff]
      exact hnil
    simp [hresult, hnil]

/-- What arrives under one key is one release with one answer. -/
theorem arrival_unique {ls : List Listing} {a b : Release × Docs}
    (ha : a ∈ (Answers.ofSource c docs).arrivals ls)
    (hb : b ∈ (Answers.ofSource c docs).arrivals ls) (h : a.1.identifier = b.1.identifier) :
    a = b := by
  obtain ⟨r, d⟩ := a
  obtain ⟨q, e⟩ := b
  obtain ⟨m, hr, hd⟩ := (Answers.mem_arrivals _).mp ha
  obtain ⟨n, hq, he⟩ := (Answers.mem_arrivals _).mp hb
  obtain ⟨l, -, hl⟩ := Listing.mem_releases_iff.mp (List.mem_of_getElem? hr)
  obtain ⟨k, -, hk⟩ := Listing.mem_releases_iff.mp (List.mem_of_getElem? hq)
  obtain rfl : r = q := Release.identifier_injOn hl hk h
  have hde : some d = some e := hd.symm.trans he
  rw [Option.some.inj hde]

/-- Indexes of the same arrivals hold the same, as long as what arrives under one key is the same
each time. -/
theorem index_agree (h : log.arrivals.Perm log'.arrivals)
    (heq : ∀ a ∈ log.arrivals, ∀ b ∈ log.arrivals, a.1.identifier = b.1.identifier → a = b) :
    log.index.holdings = log'.index.holdings ∧ log.index.values.Perm log'.index.values := by
  refine ⟨TextMap.ext_get? fun key => ?_, h.flatMap_right _⟩
  rw [Log.get?_holdings, Log.get?_holdings, getLast?_eq_of_perm (h.filter _)]
  intro a ha b hb
  simp only [List.mem_filter, decide_eq_true_eq] at ha hb
  exact heq a ha.1 b hb.1 (ha.2.trans hb.2.symm)

/-- Two drained sessions over one catalog, whatever the order in which fetches ended and whatever
was searched meanwhile, stand at the same place with the same releases, values, failures and
rankings: the same matches with the same scores from place to place, so only matches with equal
scores may have changed places. -/
theorem Run.order_irrelevant (run : Run (.ofSource c docs) Unretried s log started)
    (run' : Run (.ofSource c docs) Unretried t log' started') (hs : s.Drained) (ht : t.Drained) :
    (∃ updated, s.state = .listed updated ∧ t.state = .listed updated) ∨
    ∃ i j, s.state = .indexed i ∧ t.state = .indexed j ∧
      i.holdings = j.holdings ∧ i.values.Perm j.values ∧ i.failed.Perm j.failed ∧
      ∀ (resembles : Text → Text → Bool) (query : Text),
        (∀ (σ : Type) [Scale σ], Ranking.Agree (rank resembles query i.values : Ranking σ)
          (rank resembles query j.values)) ∧
        (rank resembles query i.values : Ranking Float).toList.map Match.score =
          (rank resembles query j.values).toList.map Match.score ∧
        (rank resembles query i.values : Ranking ℚ).toList.map Match.score =
          (rank resembles query j.values).toList.map Match.score := by
  rw [run.state_of_drained rfl hs, run'.state_of_drained rfl ht]
  by_cases hnil : c.recent = []
  · exact .inl ⟨[], by rw [if_pos hnil], by rw [if_pos hnil]⟩
  · obtain ⟨-, harrivals, hfailures⟩ := run.contents_of_drained rfl hs
    obtain ⟨-, harrivals', hfailures'⟩ := run'.contents_of_drained rfl ht
    have hunique : ∀ a ∈ log.arrivals, ∀ b ∈ log.arrivals,
        a.1.identifier = b.1.identifier → a = b := fun a ha b hb =>
      arrival_unique (harrivals.mem_iff.mp ha) (harrivals.mem_iff.mp hb)
    obtain ⟨hholdings, hvalues⟩ := index_agree (harrivals.trans harrivals'.symm) hunique
    refine .inr ⟨log.index, log'.index, by rw [if_neg hnil], by rw [if_neg hnil], hholdings,
      hvalues, hfailures.trans hfailures'.symm, fun resembles query => ?_⟩
    have hagree : ∀ (σ : Type) [Scale σ], Ranking.Agree
        (rank resembles query log.index.values : Ranking σ) (rank resembles query _) :=
      fun σ _ => rank_agree resembles query hvalues
    exact ⟨hagree, (hagree Float).map_score_eq (orders_rank resembles query _),
      (hagree ℚ).map_score_eq (Scale.orders_rat _)⟩

theorem order_irrelevant_plain :
    ∃ s t log log' started started',
      follow sampleAnswers (plainActions [3, 0, 1, 0]) (Session.start, [], []) =
        some (s, log, started) ∧
      follow sampleAnswers (plainActions [1, 0, 1, 0]) (Session.start, [], []) =
        some (t, log', started') ∧
      ∃ i j, s.state = .indexed i ∧ t.state = .indexed j ∧ i.failed ≠ j.failed ∧
        i.holdings = j.holdings ∧
        (rank Text.resembles "x" i.values : Ranking Float).toList.map Match.score =
          (rank Text.resembles "x" j.values).toList.map Match.score ∧
        (rank Text.resembles "x" i.values : Ranking ℚ).toList.map Match.score =
          (rank Text.resembles "x" j.values).toList.map Match.score := by
  obtain ⟨s, log, started, h, hs, run⟩ := exists_plain_run [3, 0, 1, 0] rfl
  obtain ⟨t, log', started', h', ht, run'⟩ := exists_plain_run [1, 0, 1, 0] rfl
  have hfailed : s.state.contents.failed ≠ t.state.contents.failed := by
    have hleft : (follow sampleAnswers (plainActions [3, 0, 1, 0]) (Session.start, [], [])).map
        (fun c => c.1.state.contents.failed.map fun l => l.versions.length) = some [2, 1] := rfl
    have hright : (follow sampleAnswers (plainActions [1, 0, 1, 0]) (Session.start, [], [])).map
        (fun c => c.1.state.contents.failed.map fun l => l.versions.length) = some [1, 2] := rfl
    intro heq
    simp only [h, h', heq, Option.map_some, Option.some.injEq] at hleft hright
    exact absurd (hleft.symm.trans hright) (by decide)
  obtain ⟨updated, hi, hj⟩ | ⟨i, j, hi, hj, hholdings, -, -, hrank⟩ :=
    run.order_irrelevant run' hs ht
  · rw [hi, hj] at hfailed
    exact absurd rfl hfailed
  · rw [hi, hj] at hfailed
    exact ⟨s, t, log, log', started, started', h, h', i, j, hi, hj, hfailed, hholdings,
      (hrank Text.resembles "x").2⟩

end Session

end DocIndex
