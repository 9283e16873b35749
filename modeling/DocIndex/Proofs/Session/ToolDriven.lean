import DocIndex.Proofs.Session.Accounting

/-!
Sessions that only tools drive. No tool fetches a listing before the index has begun, so until then
all that is fetched is what the catalog asks for, and the published progress tells where the session
stands.
-/
namespace DocIndex

inductive State.Moves : State → State → Prop where
  | stay (s : State) : Moves s s
  | fail (e : FetchError) : Moves .waiting (.unavailable e)
  | list (updated : List Listing) : Moves .waiting (.listed updated)
  | index (updated : List Listing) (i : Index) : Moves (.listed updated) (.indexed i)
  | grow (i j : Index) : Moves (.indexed i) (.indexed j)

def Log.listed (log : Log) : List Listing :=
  (log.catalogs.getLast?.map Catalog.recent).getD []

def Stage.asked : Stage → List Listing
  | .idle => []
  | .counting _ ls => ls
  | .starting ls => ls

namespace Session

/-- What may happen next to a session that only tools drive. A call of a tool may be interrupted
while it fetches listings again: it has picked them from the index, and counts and starts their
fetches one by one. -/
inductive ToolStep (w : Answers) (s : Session) (picked : List Listing) :
    Log → List Listing → Session → List Listing → Prop where
  | advance {a : Action} {t : Session} (ha : a.advances = true) (h : s.act w a = some t) :
      ToolStep w s picked (s.appliedBy a) (s.startedBy a) t picked
  | call (g : Settings) (c : ToolCall) :
      ToolStep w s picked [] (s.retried c) (s.call Float Text.resembles g c).1 picked
  | pick (c : ToolCall) : ToolStep w s picked [] [] s (picked ++ s.retried c)
  | announce {i : Nat} {l : Listing} (hl : picked[i]? = some l) :
      ToolStep w s picked [] [] (s.announce l) (picked.eraseIdx i)

/-- The runs of sessions that only tools drive, with the listings that calls have picked and not
counted, the events that the reducer applied and the listings whose fetches were started. -/
inductive ToolRun (w : Answers) : Session → List Listing → Log → List Listing → Prop where
  | start : ToolRun w Session.start [] [] []
  | step {s t : Session} {picked picked' : List Listing} {log es : Log}
      {started ls : List Listing} (run : ToolRun w s picked log started)
      (h : ToolStep w s picked es ls t picked') : ToolRun w t picked' (log ++ es) (started ++ ls)

variable {w : Answers} {allowed : Action → Prop} {s t : Session}
  {picked picked' started ls : List Listing} {log es : Log}

theorem ToolRun.run (run : ToolRun w s picked log started) :
    Run w (fun _ => True) s log started := by
  induction run with
  | start => exact .start
  | step _ h ih =>
    cases h with
    | advance _ hact => exact .act _ ih trivial hact
    | call g c => exact .act (.call g c) ih trivial rfl
    | pick c => simpa using ih
    | announce _ => exact .act (.announce _) ih trivial rfl

/-- The reducer applies one event at a time. -/
theorem Step.length_applied_le {a : Action} (h : Step w s a es ls t) : es.length ≤ 1 := by
  cases h <;> simp

theorem ToolStep.length_applied_le (h : ToolStep w s picked es ls t picked') : es.length ≤ 1 := by
  cases h with
  | advance _ hact => exact (step_of_act hact).length_applied_le
  | _ => simp

/-- Before the first result no call fetches anything. -/
theorem retried_eq_nil (h : s.state.index? = none) (c : ToolCall) : s.retried c = [] := by
  cases c with
  | retry package => cases package <;> simp [retried, missing, h]
  | _ => rfl

/-- The catalog event is applied once. -/
theorem Run.catalogEvents_cases (run : Run w allowed s log started) :
    log.catalogEvents = [] ∨ log.catalogEvents = [w.catalogEvent] := by
  have hall := run.catalogEvents_eq
  rw [Log.catalogEvents_append] at hall
  split at hall
  · exact .inl (List.append_eq_nil_iff.mp hall).1
  · rcases List.append_eq_singleton_iff.mp hall with h | h
    · exact .inl h.1
    · exact .inr h.1

/-- How far a session has come that only tools drive: until the first result, only listings of the
catalog are asked for, and a result comes only after the catalog. -/
inductive Course (s : Session) (picked : List Listing) (log : Log) (started : List Listing) :
    Prop where
  | opening (hr : log.hasResult = false) (hp : picked = []) (ha : s.announced = [])
      (hs : started ++ s.stage.asked = log.listed)
  | underWay (hr : log.hasResult = true) (hc : log.catalogs ≠ [])

/-- A result is queued only after the catalog is applied. -/
theorem Run.catalogs_ne_nil (run : Run w allowed s log started)
    (hs : started = log.listed) {e : Event} (he : e ∈ s.queue) (hr : e.isResult = true) :
    log.catalogs ≠ [] := by
  intro hnone
  have hperm := run.results_perm
  rw [hs, Log.listed, hnone] at hperm
  have hnil := (List.append_eq_nil_iff.mp hperm.eq_nil).1
  have hmem : e ∈ Log.results (log ++ s.queue) :=
    List.mem_filter.mpr ⟨List.mem_append_right _ he, hr⟩
  rw [hnil] at hmem
  cases hmem

theorem Course.apply (run : Run w allowed s log started)
    (h : Course s picked log started) (hidle : s.stage = .idle) {e : Event} {rest : List Event}
    (hq : s.queue = e :: rest) :
    Course { s with
        state := s.state.after e
        queue := rest
        stage := .counting e (s.state.requested e) } picked (log ++ [e]) started := by
  cases h with
  | underWay hr hc => exact .underWay (by simp [hr]) (by simp [hc])
  | opening hr hp ha hs =>
    rw [hidle, Stage.asked, List.append_nil] at hs
    have he : e ∈ s.queue := by simp [hq]
    cases hresult : e.isResult with
    | true => exact .underWay (by simp [hresult]) (by simp [run.catalogs_ne_nil hs he hresult])
    | false =>
      refine .opening (by simp [hr, hresult]) hp ha ?_
      rw [Stage.asked, run.state_eq, Log.requested_state, hs]
      cases hcatalog : e.isCatalog with
      | true =>
        have hnone := run.catalogEvents_before rfl he hcatalog
        have hcatalogs : log.catalogs = [] := by rw [Log.catalogs_eq, hnone, List.filterMap_nil]
        have herrors : log.catalogErrors = [] := by
          rw [Log.catalogErrors_eq, hnone, List.filterMap_nil]
        cases e <;> simp [Log.listed, hcatalogs, herrors, hr, Event.catalog?]
      | false => simp [Log.listed, Event.catalog?_eq_none hcatalog]

/-- Nothing is applied, and no listing is lost on the way to its fetch. -/
theorem Course.frame {started' : List Listing} (h : Course s picked log started)
    (ha : s.announced = [] → t.announced = [])
    (hs : started' ++ t.stage.asked = started ++ s.stage.asked) : Course t picked log started' := by
  cases h with
  | underWay hr hc => exact .underWay hr hc
  | opening hr hp hannounced hasked => exact .opening hr hp (ha hannounced) (hs.trans hasked)

/-- What works off what is there keeps the course of a session. -/
theorem Course.advance (run : Run w allowed s log started)
    (h : Course s picked log started) {a : Action} (ha : a.advances = true)
    (hstep : Step w s a es ls t) : Course t picked (log ++ es) (started ++ ls) := by
  cases hstep with
  | apply e rest hidle hq => simpa using h.apply run hidle hq
  | launch i l hl =>
    cases h with
    | underWay hr hc => exact .underWay (by simpa using hr) (by simpa using hc)
    | opening _ _ hannounced _ =>
      rw [hannounced] at hl
      cases hl
  | query a query hq =>
    rw [hq] at ha
    cases ha
  | announce l => cases ha
  | look a hl =>
    rw [hl] at ha
    cases ha
  | retry a ls hr =>
    rw [Action.retries_of_advances ha] at hr
    cases hr
  | count e ls hs =>
    rw [List.append_nil, List.append_nil]
    exact h.frame id (by simp [hs, Stage.asked])
  | begin l ls hs =>
    rw [List.append_nil]
    exact h.frame id (by simp [hs, Stage.asked])
  | rest hs =>
    rw [List.append_nil, List.append_nil]
    exact h.frame id (by simp [hs, Stage.asked])
  | endCatalog ho =>
    rw [List.append_nil, List.append_nil]
    exact h.frame id rfl
  | endFetch i f hf =>
    rw [List.append_nil, List.append_nil]
    exact h.frame id rfl

/-- Before the first result there is no index. -/
theorem Run.index?_eq_none (run : Run w allowed s log started)
    (hr : log.hasResult = false) : s.state.index? = none := by
  rw [run.state_eq, Log.state, hr]
  cases log.catalogErrors.getLast? with
  | some e => rfl
  | none => cases log.catalogs.getLast? <;> rfl

/-- Tools keep the course of a session: they fetch nothing again before the first result. -/
theorem Course.step (run : Run w (fun _ => True) s log started) (h : Course s picked log started)
    (hstep : ToolStep w s picked es ls t picked') :
    Course t picked' (log ++ es) (started ++ ls) := by
  cases hstep with
  | advance ha hact => exact h.advance run ha (step_of_act hact)
  | call g c =>
    rw [List.append_nil]
    cases h with
    | underWay hr hc => exact .underWay hr hc
    | opening hr hp ha hs =>
      have hnone := retried_eq_nil (run.index?_eq_none hr)
      rw [hnone, List.append_nil, call_fst]
      cases c with
      | search query limit => exact .opening hr hp ha hs
      | _ =>
        simp only [hnone, List.foldl_nil]
        exact .opening hr hp ha hs
  | pick c =>
    rw [List.append_nil, List.append_nil]
    cases h with
    | underWay hr hc => exact .underWay hr hc
    | opening hr hp ha hs =>
      rw [retried_eq_nil (run.index?_eq_none hr), List.append_nil]
      exact .opening hr hp ha hs
  | announce hl =>
    rw [List.append_nil, List.append_nil]
    cases h with
    | underWay hr hc => exact .underWay hr hc
    | opening hr hp ha hs =>
      rw [hp] at hl
      cases hl

theorem ToolRun.course (run : ToolRun w s picked log started) : Course s picked log started := by
  induction run with
  | start => exact .opening rfl rfl rfl rfl
  | step run h ih => exact ih.step run.run h

inductive Phase (log : Log) : State → Prop where
  | waiting (hc : log.catalogEvents = []) (hr : log.results = []) : Phase log .waiting
  | unavailable (e : FetchError) (hc : log.catalogEvents = [.catalogFailed e])
      (hr : log.results = []) : Phase log (.unavailable e)
  | listed (c : Catalog) (hc : log.catalogEvents = [.catalogArrived c]) (hr : log.results = []) :
      Phase log (.listed c.recent)
  | indexed (c : Catalog) (hc : log.catalogEvents = [.catalogArrived c]) (hr : log.results ≠ []) :
      Phase log (.indexed log.index)

theorem Course.results_eq_nil (h : Course s picked log started) (hc : log.catalogs = []) :
    log.results = [] := by
  cases h with
  | opening hr hp ha hs => exact (Log.results_eq_nil_iff log).mpr hr
  | underWay hr hcatalogs => exact absurd hc hcatalogs

theorem ToolRun.phase (run : ToolRun w s picked log started) : Phase log s.state := by
  have hresults : log.catalogs = [] → log.results = [] := run.course.results_eq_nil
  rw [run.run.state_eq]
  rw [Log.catalogs_eq] at hresults
  unfold Log.state
  rw [Log.catalogErrors_eq, Log.catalogs_eq]
  rcases run.run.catalogEvents_cases with hc | hc
  · have hr : log.results = [] := hresults (by rw [hc, List.filterMap_nil])
    rw [hc, (Log.results_eq_nil_iff log).mp hr]
    exact .waiting hc hr
  · rw [Answers.catalogEvent] at hc
    cases hw : w.catalog with
    | error e =>
      rw [hw] at hc
      rw [hc]
      exact .unavailable e hc (hresults (by rw [hc]; rfl))
    | ok c =>
      rw [hw] at hc
      rw [hc]
      cases hr : log.hasResult with
      | false => exact .listed c hc ((Log.results_eq_nil_iff log).mpr hr)
      | true =>
        refine .indexed c hc fun hnil => ?_
        rw [Log.results_eq_nil_iff, hr] at hnil
        cases hnil

/-- No single event is both the end of the catalog fetch and a result. -/
theorem results_eq_nil_of_length_le (h : es.length ≤ 1) (hc : es.catalogEvents ≠ []) :
    es.results = [] := by
  match es, h with
  | [], _ => rfl
  | [e], _ =>
    rw [Log.catalogEvents_singleton] at hc
    rw [Log.results_singleton]
    cases e with
    | catalogArrived c => rfl
    | catalogFailed e => rfl
    | _ => exact absurd rfl hc

/-- The state only moves forward, and a failed catalog is final. -/
theorem ToolRun.moves (run : ToolRun w s picked log started)
    (h : ToolStep w s picked es ls t picked') : s.state.Moves t.state := by
  have hlater := (run.step h).phase
  have hnow := run.phase
  generalize s.state = now at hnow ⊢
  generalize t.state = later at hlater ⊢
  cases hnow with
  | waiting hc hr =>
    cases hlater with
    | waiting => exact .stay _
    | unavailable e => exact .fail e
    | listed c => exact .list c.recent
    | indexed c hc' hr' =>
      rw [Log.catalogEvents_append, hc, List.nil_append] at hc'
      rw [Log.results_append, hr, List.nil_append] at hr'
      exact absurd (results_eq_nil_of_length_le h.length_applied_le (by simp [hc'])) hr'
  | unavailable e hc hr =>
    cases hlater with
    | unavailable e' hc' =>
      obtain rfl : e = e' := by simpa [hc] using congrArg List.head? hc'
      exact .stay _
    | waiting hc' => simp [hc] at hc'
    | listed c hc' => simp [hc] at hc'
    | indexed c hc' => simp [hc] at hc'
  | listed c hc hr =>
    cases hlater with
    | listed c' hc' =>
      obtain rfl : c = c' := by simpa [hc] using congrArg List.head? hc'
      exact .stay _
    | indexed => exact .index c.recent _
    | waiting hc' => simp [hc] at hc'
    | unavailable e hc' => simp [hc] at hc'
  | indexed c hc hr =>
    cases hlater with
    | indexed => exact .grow _ _
    | waiting hc' => simp [hc] at hc'
    | unavailable e hc' => simp [hc] at hc'
    | listed c' hc' hr' => simp [hr] at hr'

/-- The published progress tells where the session stands, and the counts are those of what the
session holds. -/
structure Agrees (s : Session) : Prop where
  waiting_iff : s.state = .waiting ↔ s.progress.catalog = .pending
  unavailable_iff : (∃ e, s.state = .unavailable e) ↔ s.progress.catalog = .failed
  loaded_iff : (∃ updated, s.state = .listed updated) ∨ (∃ i, s.state = .indexed i) ↔
    s.progress.catalog = .loaded
  unissued : s.progress.catalog ≠ .loaded →
    s.progress.issued = 0 ∧ s.progress.loaded = 0 ∧ s.progress.failed = 0
  listed : ∀ updated, s.state = .listed updated →
    s.progress.issued = updated.length ∧ s.progress.resolved = 0
  indexed_iff : (∃ i, s.state = .indexed i) ↔ 0 < s.progress.resolved
  indexed : ∀ i, s.state = .indexed i →
    s.progress.failed = i.failed.length ∧ i.holdings.size ≤ s.progress.loaded

theorem size_holdings_le (log : Log) : log.index.holdings.size ≤ log.arrivals.length := by
  have hsize :=
    TextMap.size_ofList_le (log.arrivals.map fun a => (a.1.identifier, Holding.of a.1 a.2))
  rwa [List.length_map] at hsize

/-- Between two events all that is applied is counted. -/
theorem Run.progress_of_idle (run : Run w allowed s log started)
    (hidle : s.stage = .idle) :
    s.progress.catalog = (log.catalogEvents.filterMap Event.status?).getLast?.getD .pending ∧
    s.progress.loaded = log.arrivals.length ∧ s.progress.failed = log.failures.length ∧
    s.progress.resolved = log.results.length := by
  obtain ⟨counted, hlog, hp⟩ := run.exists_counted
  obtain rfl : log = counted := by simpa [hidle, Stage.uncounted] using hlog
  rw [hp]
  refine ⟨Progress.catalog_foldl_tally _ _, ?_, ?_, ?_⟩
  · exact (Progress.loaded_foldl_tally _ _).trans (Nat.zero_add _)
  · exact (Progress.failed_foldl_tally _ _).trans (Nat.zero_add _)
  · exact (Progress.resolved_foldl_tally _ _).trans (Nat.zero_add _)

/-- Before the first result the fetches are those of the listings of the catalog, and none is counted
as ended. -/
theorem ToolRun.counts_of_results_eq_nil (run : ToolRun w s picked log started)
    (hidle : s.stage = .idle) (hr : log.results = []) :
    s.progress.issued = log.listed.length ∧ s.progress.loaded = 0 ∧ s.progress.failed = 0 ∧
      s.progress.resolved = 0 := by
  obtain ⟨-, hloaded, hfailed, hresolved⟩ := run.run.progress_of_idle hidle
  rw [Log.arrivals_eq, hr] at hloaded
  rw [Log.failures_eq, hr] at hfailed
  rw [hr] at hresolved
  refine ⟨?_, hloaded, hfailed, hresolved⟩
  cases run.course with
  | underWay hresult _ =>
    rw [Log.results_eq_nil_iff, hresult] at hr
    cases hr
  | opening _ _ ha hs =>
    rw [run.run.issued_eq, ha, hidle, ← hs, hidle]
    simp [Stage.asked, Stage.unstarted]

/-- Between two events the published progress agrees with the state. -/
theorem ToolRun.agrees (run : ToolRun w s picked log started) (hidle : s.stage = .idle) :
    Agrees s := by
  obtain ⟨hcatalog, hloaded, hfailed, hresolved⟩ := run.run.progress_of_idle hidle
  have hphase := run.phase
  generalize hstate : s.state = now at hphase
  cases hphase with
  | waiting hc hr =>
    obtain ⟨hissued, hloaded, hfailed, hresolved⟩ := run.counts_of_results_eq_nil hidle hr
    have hpending : s.progress.catalog = .pending := by rw [hcatalog, hc]; rfl
    have hnone : s.progress.issued = 0 := by rw [hissued, Log.listed, Log.catalogs_eq, hc]; rfl
    constructor <;> simp [hstate, hpending, hnone, hloaded, hfailed, hresolved]
  | unavailable e hc hr =>
    obtain ⟨hissued, hloaded, hfailed, hresolved⟩ := run.counts_of_results_eq_nil hidle hr
    have hpublished : s.progress.catalog = .failed := by rw [hcatalog, hc]; rfl
    have hnone : s.progress.issued = 0 := by rw [hissued, Log.listed, Log.catalogs_eq, hc]; rfl
    constructor <;> simp [hstate, hpublished, hnone, hloaded, hfailed, hresolved]
  | listed c hc hr =>
    obtain ⟨hissued, -, -, hresolved⟩ := run.counts_of_results_eq_nil hidle hr
    have hpublished : s.progress.catalog = .loaded := by rw [hcatalog, hc]; rfl
    have hall : s.progress.issued = c.recent.length := by
      rw [hissued, Log.listed, Log.catalogs_eq, hc]
      rfl
    constructor <;> simp [hstate, hpublished, hall, hresolved]
  | indexed c hc hr =>
    have hpublished : s.progress.catalog = .loaded := by rw [hcatalog, hc]; rfl
    have hpos : 0 < s.progress.resolved := hresolved ▸ List.length_pos_iff.mpr hr
    have hsize : log.index.holdings.size ≤ s.progress.loaded := hloaded ▸ size_holdings_le log
    have hfailures : s.progress.failed = log.index.failed.length := hfailed
    constructor <;> simp [hstate, hpublished, hpos, hsize, hfailures]

/-- After a failed catalog no fetch was ever started. -/
theorem ToolRun.started_of_unavailable (run : ToolRun w s picked log started) {e : FetchError}
    (hs : s.state = .unavailable e) : started = [] := by
  have hphase := run.phase
  rw [hs] at hphase
  cases hphase with
  | unavailable _ hc hr =>
    have hcatalogs : log.catalogs = [] := by rw [Log.catalogs_eq, hc]; rfl
    cases run.course with
    | underWay _ harrived => exact absurd hcatalogs harrived
    | opening _ _ _ hasked =>
      rw [Log.listed, hcatalogs] at hasked
      exact (List.append_eq_nil_iff.mp hasked).1

/-- In a session that only tools drive, whatever their calls and the order of the answers, the state
and the published progress agree between any two events. The state only moves on from the catalog
to the index, a failed catalog is final, and it comes before any request. -/
theorem ToolRun.consistent (run : ToolRun w s picked log started) :
    (s.stage = .idle → Agrees s) ∧
    (∀ {es ls t picked'}, ToolStep w s picked es ls t picked' → s.state.Moves t.state) ∧
    ∀ e, s.state = .unavailable e → started = [] ∧ s.requests = [] := by
  refine ⟨run.agrees, run.moves, fun e hs => ?_⟩
  have hnone := run.started_of_unavailable hs
  exact ⟨hnone, by rw [run.run.requests_eq, hnone]; rfl⟩

/-- What is there is worked off without a caller. -/
theorem ToolRun.follow {actions : List Action} (run : ToolRun w s picked log started)
    (ha : ∀ a ∈ actions, a.advances = true)
    (h : Session.follow w actions (s, log, started) = some (t, es, ls)) :
    ToolRun w t picked es ls := by
  induction actions generalizing s log started with
  | nil =>
    obtain ⟨rfl, rfl, rfl⟩ : s = t ∧ log = es ∧ started = ls := by simpa [Session.follow] using h
    exact run
  | cons a actions ih =>
    obtain ⟨u, hu, h⟩ := Option.bind_eq_some_iff.mp h
    exact ih (run.step (.advance (ha a List.mem_cons_self) hu))
      (fun b hb => ha b (List.mem_cons_of_mem a hb)) h

def failingActions : List Action :=
  [.endCatalog] ++ List.replicate 7 .reduce ++ [.endFetch 1] ++ List.replicate 3 .reduce

def failingAgainActions : List Action :=
  [.endFetch 0, .reduce, .launch 0, .reduce, .reduce, .endFetch 2] ++ List.replicate 3 .reduce

/-- A retry of what has failed picks one listing, and is interrupted before it counts its fetch and
before it starts it. -/
theorem consistent_interrupted :
    ∃ s log started, ToolRun sampleAnswers s [] log started ∧ s.stage = .idle ∧
      s.progress = ⟨.loaded, 5, 1, 2⟩ ∧
      ∃ i, s.state = .indexed i ∧ i.failed.length = 2 ∧ i.holdings.size ≤ 1 := by
  obtain ⟨⟨s, log, started⟩, h⟩ :
      ∃ c, Session.follow sampleAnswers failingActions (Session.start, [], []) = some c := ⟨_, rfl⟩
  have hpicked : s.retried (.retry none) = [⟨"odd", [⟨1, 0, 0⟩]⟩] := by
    have hfirst : (Session.follow sampleAnswers failingActions (Session.start, [], [])).map
        (fun c => c.1.retried (.retry none)) = some [⟨"odd", [⟨1, 0, 0⟩]⟩] := rfl
    simpa [h] using hfirst
  have hsecond : ((Session.follow sampleAnswers failingActions (Session.start, [], [])).bind
      fun c => Session.follow sampleAnswers failingAgainActions
        (c.1.announce ⟨"odd", [⟨1, 0, 0⟩]⟩, c.2.1, c.2.2)).map
      (fun c => (c.1.stage, c.1.progress)) = some (.idle, ⟨.loaded, 5, 1, 2⟩) := rfl
  rw [h, Option.bind_some] at hsecond
  obtain ⟨⟨t, log', started'⟩, h', hlast⟩ := Option.map_eq_some_iff.mp hsecond
  obtain ⟨hidle, hp⟩ := Prod.mk.inj hlast
  have run : ToolRun sampleAnswers s [] log started := .follow .start (by decide) h
  have hpick := run.step (.pick (.retry none))
  rw [hpicked] at hpick
  have hannounce := hpick.step (.announce (i := 0) rfl)
  simp only [List.append_nil] at hannounce
  have later : ToolRun sampleAnswers t [] log' started' := hannounce.follow (by decide) h'
  have hagrees := later.consistent.1 hidle
  obtain ⟨i, hi⟩ := hagrees.indexed_iff.mpr (by rw [hp]; decide)
  obtain ⟨hfailed, hsize⟩ := hagrees.indexed i hi
  rw [hp] at hfailed hsize
  exact ⟨t, log', started', later, hidle, hp, i, hi, hfailed.symm, hsize⟩

end Session

end DocIndex
