import DocIndex.Proofs.Session.Accounting
import DocIndex.Session.Drain

/-!
How a session comes to an end. Every action that works off what is there lowers `load`, and such an
action is possible until nothing is left, so every run can be carried on until all is answered and
applied.
-/
namespace DocIndex.Session

variable {w : Answers} {allowed : Action → Prop} {s t : Session} {log : Log}
  {started : List Listing}

/-- Nothing is open, and all that was sent is applied and counted. -/
structure Drained (s : Session) : Prop where
  stage : s.stage = .idle
  queue : s.queue = []
  announced : s.announced = []
  fetches : s.fetches = []
  catalogOpen : s.catalogOpen = false

def load (w : Answers) (s : Session) : Nat :=
  queueWork s.queue + stageWork s.stage + 5 * s.announced.length + 4 * s.fetches.length
    + (if s.catalogOpen then 1 + eventWork w.catalogEvent else 0)

theorem eventWork_event (w : Answers) (f : Fetch) : eventWork (w.event f) = 3 := by
  have h := isCatalog_event w f
  cases hf : w.event f with
  | catalogArrived c =>
    rw [hf] at h
    cases h
  | _ => rfl

theorem Step.load_lt {a : Action} {es : Log} {ls : List Listing} (h : Step w s a es ls t)
    (ha : a.advances = true) : t.load w < s.load w := by
  cases h with
  | apply e rest hs hq =>
    have := requested_length s.state e
    simp only [load, hs, hq, stageWork, queueWork]
    omega
  | count e ls hs =>
    simp only [load, hs, stageWork]
    omega
  | begin l ls hs =>
    simp only [load, hs, stageWork, List.length_append, List.length_cons, List.length_nil]
    omega
  | rest hs =>
    simp only [load, hs, stageWork]
    omega
  | endCatalog ho =>
    simp only [load, ho, queueWork_concat, if_true, Bool.false_eq_true, if_false]
    omega
  | endFetch i f hf =>
    obtain ⟨hi, _⟩ := List.getElem?_eq_some_iff.mp hf
    simp only [load, queueWork_concat, eventWork_event, List.length_eraseIdx, hi, if_true]
    omega
  | query a query hq =>
    rw [hq] at ha
    cases ha
  | announce l => cases ha
  | launch i l hl =>
    obtain ⟨hi, _⟩ := List.getElem?_eq_some_iff.mp hl
    simp only [load, List.length_append, List.length_cons, List.length_nil, List.length_eraseIdx,
      hi, if_true]
    omega
  | look a hl =>
    rw [hl] at ha
    cases ha
  | retry a ls hr =>
    rw [Action.retries_of_advances ha] at hr
    cases hr

/-- The reducer has nothing to do when it is through with all that was sent. -/
theorem reduce_eq_none_iff : s.reduce = none ↔ s.stage = .idle ∧ s.queue = [] := by
  constructor
  · intro h
    unfold reduce at h
    split at h
    next hs =>
      split at h
      next hq => exact ⟨hs, hq⟩
      next => cases h
    all_goals cases h
  · rintro ⟨hs, hq⟩
    simp [reduce, hs, hq]

/-- A session that is not drained can go on without a caller. -/
theorem exists_advance (w : Answers) (h : ¬s.Drained) :
    ∃ a : Action, a.advances = true ∧ (s.act w a).isSome := by
  cases hr : s.reduce with
  | some t => exact ⟨.reduce, rfl, Option.isSome_of_eq_some hr⟩
  | none =>
    obtain ⟨hs, hq⟩ := reduce_eq_none_iff.mp hr
    cases ho : s.catalogOpen with
    | true => exact ⟨.endCatalog, rfl, by simp [act, endCatalog, ho]⟩
    | false =>
      cases ha : s.announced with
      | cons l ls => exact ⟨.launch 0, rfl, by simp [act, launch, ha]⟩
      | nil =>
        cases hf : s.fetches with
        | cons f fs => exact ⟨.endFetch 0, rfl, by simp [act, endFetch, hf]⟩
        | nil => exact absurd ⟨hs, hq, ha, hf, ho⟩ h

/-- Every run can be carried on, without a caller, until the session is drained. -/
theorem Run.exists_drained (run : Run w allowed s log started)
    (hall : ∀ a : Action, a.advances = true → allowed a) :
    ∃ t more later, Run w allowed t (log ++ more) (started ++ later) ∧ t.Drained := by
  induction hn : s.load w using Nat.strong_induction_on generalizing s log started with
  | _ n ih =>
    by_cases hd : s.Drained
    · exact ⟨s, [], [], by simpa using run, hd⟩
    · obtain ⟨a, ha, hsome⟩ := exists_advance w hd
      obtain ⟨t, h⟩ := Option.isSome_iff_exists.mp hsome
      have hlt : t.load w < n := hn ▸ (step_of_act h).load_lt ha
      obtain ⟨u, more, later, hrun, hu⟩ := ih _ hlt (.act a run (hall a ha) h) rfl
      rw [List.append_assoc, List.append_assoc] at hrun
      exact ⟨u, _, _, hrun, hu⟩

/-- Actions that leave nothing open end in a drained session. -/
theorem exists_drained_run (w : Answers) (actions : List Action) (ha : ∀ a ∈ actions, allowed a)
    (hend : (follow w actions (Session.start, [], [])).map
      (fun c => (c.1.stage, c.1.queue, c.1.announced, c.1.fetches, c.1.catalogOpen)) =
        some (.idle, [], [], [], false)) :
    ∃ s log started, follow w actions (Session.start, [], []) = some (s, log, started) ∧
      s.Drained ∧ Run w allowed s log started := by
  obtain ⟨⟨s, log, started⟩, h, hlast⟩ := Option.map_eq_some_iff.mp hend
  simp only [Prod.mk.injEq] at hlast
  obtain ⟨hs, hq, hannounced, hf, ho⟩ := hlast
  exact ⟨s, log, started, h, ⟨hs, hq, hannounced, hf, ho⟩, Run.follow .start ha h⟩

/-- In a drained session the event of the catalog fetch is applied, and the event of every started
fetch, once each. -/
theorem Run.log_of_drained (run : Run w allowed s log started) (hd : s.Drained) :
    log.catalogEvents = [w.catalogEvent] ∧
    log.results.Perm ((Fetch.ofListings 0 started).map w.event) := by
  have hcat := run.catalogEvents_eq
  have hperm := run.results_perm
  constructor
  · simpa [hd.queue, hd.catalogOpen] using hcat
  · simpa [hd.queue, hd.fetches] using hperm

/-- In a drained session all that is applied is counted. -/
theorem Run.catalog_of_drained (run : Run w allowed s log started) (hd : s.Drained) {c : Catalog}
    (hc : w.catalog = .ok c) : s.progress.catalog = .loaded := by
  obtain ⟨counted, hlog, hcatalog⟩ := run.exists_counted_catalog
  have hcat := (run.log_of_drained hd).1
  simp only [hlog, hd.stage, Stage.uncounted, List.append_nil] at hcat
  rw [hcatalog, hcat, Answers.catalogEvent, hc]
  rfl

/-- In a drained session the catalog has arrived once. -/
theorem Run.catalogs_of_drained (run : Run w allowed s log started) (hd : s.Drained) {c : Catalog}
    (hc : w.catalog = .ok c) : log.catalogs = [c] := by
  rw [Log.catalogs_eq, (run.log_of_drained hd).1, Answers.catalogEvent, hc]
  rfl

theorem docs?_event (w : Answers) (f : Fetch) :
    (w.event f).docs? = f.request.bind w.arrival? := by
  unfold Answers.event Answers.arrival? Answers.docsOf Fetch.event
  cases f.request with
  | none => rfl
  | some r => cases hd : w.docs r.1 r.2 <;> simp [hd, Event.docs?]

theorem failure?_event (w : Answers) (f : Fetch) :
    (w.event f).failure? = if (w.docsOf f).isNone then some f.listing else none := by
  unfold Answers.event Answers.docsOf Fetch.event
  cases f.request with
  | none => rfl
  | some r => cases hd : w.docs r.1 r.2 <;> simp [hd, Event.failure?]

/-- In a drained session every started fetch has brought what is answered to it. -/
theorem Run.arrivals_perm (run : Run w allowed s log started) (hd : s.Drained) :
    log.arrivals.Perm (w.arrivals started) := by
  have hperm := (run.log_of_drained hd).2.filterMap Event.docs?
  rw [← Log.arrivals_eq, List.filterMap_map] at hperm
  rw [Answers.arrivals, List.filterMap_filterMap]
  simpa only [Function.comp_def, docs?_event] using hperm

theorem Run.failures_perm (run : Run w allowed s log started) (hd : s.Drained) :
    log.failures.Perm (w.failures started) := by
  have hperm := (run.log_of_drained hd).2.filterMap Event.failure?
  rw [← Log.failures_eq, List.filterMap_map] at hperm
  rw [Answers.failures, ← List.filterMap_eq_map, List.filterMap_filter]
  simpa only [Function.comp_def, failure?_event] using hperm

end DocIndex.Session
