import DocIndex.Proofs.Page.Search
import DocIndex.Proofs.Session.FanOut

/-!
What an answer may rely on. A call reads the published progress first and the state later, while the
reducer changes the state first and publishes the progress later. So whatever happens between the
two reads, the state that the answer is drawn from holds every result that the progress counts.
-/
namespace DocIndex

def State.Holds (s : State) : Event → Prop
  | .docsArrived r d =>
    r.identifier ∈ s.contents.holdings.keys ∧ d.values r.identifier <:+: s.contents.values
  | .docsFailed l => l ∈ s.contents.failed
  | _ => True

theorem State.values_eq (s : State) : s.values = s.contents.values := by
  cases s <;> rfl

/-- Unless the catalog has failed, all that has come is held. -/
theorem Log.holds_state {log : Log} (h : log.catalogErrors = []) {e : Event} (he : e ∈ log) :
    log.state.Holds e := by
  cases e with
  | docsArrived r d =>
    have harrived : (r, d) ∈ log.arrivals := List.mem_filterMap.mpr ⟨_, he, rfl⟩
    rw [State.Holds, contents_state h, mem_keys_holdings]
    refine ⟨⟨(r, d), harrived, rfl⟩, ?_⟩
    exact List.infix_of_mem_flatten (List.mem_map.mpr ⟨(r, d), harrived, rfl⟩)
  | docsFailed l =>
    rw [State.Holds, contents_state h]
    exact List.mem_filterMap.mpr ⟨_, he, rfl⟩
  | _ => trivial

theorem Log.catalogErrors_of_state {log : Log} (h : ∀ e, log.state ≠ .unavailable e) :
    log.catalogErrors = [] := by
  cases hlast : log.catalogErrors.getLast? with
  | none => exact List.getLast?_eq_none_iff.mp hlast
  | some e => exact absurd (by rw [state, hlast]) (h e)

/-- What is held of a release is ranked. -/
theorem State.mem_rank_of_holds {σ : Type} [Scale σ] {s : State} {r : Release} {d : Docs}
    (h : s.Holds (.docsArrived r d)) (resembles : Text → Text → Bool) {query : Text}
    (hquery : query ≠ []) {m : Match σ} (hm : m.value ∈ d.values r.identifier)
    (hscore : m.score = (Query.ofText query).score resembles m.value)
    (hlow : Scale.le m.score Scale.low = true) :
    m ∈ (rank resembles query s.values).toList := by
  have hvalue : m.value ∈ s.values := s.values_eq ▸ h.2.subset hm
  exact (mem_rank_iff resembles).mpr ⟨hquery, hvalue, hscore, hlow⟩

namespace Session

variable {w : Answers} {allowed : Action → Prop} {s t : Session} {log log' : Log}
  {started started' : List Listing} {actions : List Action}

/-- What was applied stays applied. -/
theorem prefix_of_follow (h : follow w actions (s, log, started) = some (t, log', started')) :
    log <+: log' := by
  induction actions generalizing s log started with
  | nil =>
    obtain ⟨rfl, rfl, rfl⟩ : s = t ∧ log = log' ∧ started = started' := by simpa [follow] using h
    exact List.prefix_rfl
  | cons a actions ih =>
    obtain ⟨u, -, h⟩ := Option.bind_eq_some_iff.mp h
    exact (List.prefix_append log _).trans (ih h)

/-- The counts of ended fetches are those of events that are applied. -/
theorem Run.exists_tallied (run : Run w allowed s log started) :
    ∃ counted : Log, counted <+: log ∧ s.progress.loaded = counted.arrivals.length ∧
      s.progress.failed = counted.failures.length := by
  obtain ⟨counted, hlog, hp⟩ := run.exists_counted
  have hloaded := Progress.loaded_foldl_tally Progress.start counted
  have hfailed := Progress.failed_foldl_tally Progress.start counted
  refine ⟨counted, ⟨s.stage.uncounted, hlog.symm⟩, ?_, ?_⟩
  · rw [hp]
    exact hloaded.trans (Nat.zero_add _)
  · rw [hp]
    exact hfailed.trans (Nat.zero_add _)

/-- A catalog that is not pending has arrived, unless the applied events leave a failed one. -/
theorem Run.catalog_loaded (run : Run w allowed s log started) (h : s.progress.catalog ≠ .pending)
    (hc : log.catalogErrors = []) : s.progress.catalog = .loaded := by
  obtain ⟨hmem, hstatus⟩ := run.status?_catalogEvent h
  cases hw : w.catalog with
  | ok c => simpa [Answers.catalogEvent, hw, Event.status?, eq_comm] using hstatus
  | error e =>
    have herror : w.catalogEvent.catalogError? = some e := by
      rw [Answers.catalogEvent, hw]
      rfl
    rw [Log.catalogErrors, List.filterMap_eq_nil_iff] at hc
    exact absurd (herror.symm.trans (hc _ hmem)) (Option.some_ne_none e)

/-- Whatever happens between reading the progress and reading the state, what the progress counts as
ended is applied to the state. An answer to a search shows the ranking of the values in that state,
and its note on open fetches is empty only if the ranking covers the results of all fetches that
were issued when the progress was read. -/
theorem Run.answer_complete (run : Run w (fun _ => True) s log started)
    (later : Session.follow w actions (s, log, started) = some (t, log', started')) :
    (∃ counted : Log, counted <+: log' ∧ State.waiting.afterAll log' = t.state ∧
      s.progress.loaded = counted.arrivals.length ∧
      s.progress.failed = counted.failures.length ∧
      ((∀ e, t.state ≠ .unavailable e) → ∀ e ∈ counted, t.state.Holds e)) ∧
    ∀ query limit base answer,
      Page.search Float Text.resembles query limit base s.progress t.state = .ok answer →
      (∃ body, answer = body ++ Page.pendingNote s.progress ∧
        Page.Shows query base limit t.state.contents
          (rank Text.resembles query t.state.values : Ranking Float) body) ∧
      (Page.pendingNote s.progress ≠ [] →
        "\n\nStill loading".toList <+: Page.pendingNote s.progress) ∧
      (Page.pendingNote s.progress = [] →
        s.progress.catalog = .loaded ∧ started.length = s.progress.issued ∧
        ∀ f ∈ Fetch.ofListings 0 started, t.state.Holds (w.event f) ∧
          ∀ r d, w.event f = .docsArrived r d → query ≠ [] →
            ∀ m : Match Float, m.value ∈ d.values r.identifier →
              m.score = (Query.ofText query).score Text.resembles m.value →
              Scale.le m.score Scale.low = true →
              m ∈ (rank Text.resembles query t.state.values).toList) := by
  have run' : Run w (fun _ => True) t log' started' := run.follow (fun _ _ => trivial) later
  have hstate : State.waiting.afterAll log' = t.state := by
    rw [Log.afterAll_waiting, run'.state_eq]
  have hgrown : log <+: log' := prefix_of_follow later
  have hholds : (∀ e, t.state ≠ .unavailable e) → ∀ e ∈ log', t.state.Holds e := by
    intro hne e he
    rw [run'.state_eq] at hne ⊢
    exact Log.holds_state (Log.catalogErrors_of_state hne) he
  refine ⟨?_, fun query limit base answer hanswer => ?_⟩
  · obtain ⟨counted, hcounted, hloaded, hfailed⟩ := run.exists_tallied
    have happlied := hcounted.trans hgrown
    exact ⟨counted, happlied, hstate, hloaded, hfailed,
      fun hne e he => hholds hne e (happlied.subset he)⟩
  · obtain ⟨hne, hshows⟩ := Page.exists_shows hstate hanswer
    refine ⟨hshows, Page.pendingNote_of_ne_nil, fun hnote => ?_⟩
    obtain ⟨hcatalog, hsettled⟩ := Page.pendingNote_eq_nil_iff.mp hnote
    have herrors : log.catalogErrors = [] := by
      have hlater : Log.catalogErrors log' = [] :=
        Log.catalogErrors_of_state fun e => run'.state_eq ▸ hne e
      exact List.prefix_nil.mp (hlater ▸ hgrown.filterMap _)
    have hloaded := run.catalog_loaded hcatalog herrors
    obtain ⟨-, -, -, -, -, hstarted, hperm⟩ := run.results_of_settled hloaded hsettled
    refine ⟨hloaded, hstarted, fun f hf => ?_⟩
    have hsent : w.event f ∈ log' := by
      have hresult := hperm.mem_iff.mpr (List.mem_map_of_mem hf)
      exact hgrown.subset (List.mem_filter.mp hresult).1
    have hheld := hholds hne _ hsent
    refine ⟨hheld, fun r d hevent hquery m hm hscore hlow => ?_⟩
    rw [hevent] at hheld
    exact State.mem_rank_of_holds hheld Text.resembles hquery hm hscore hlow

def firstAnswer : Answers where
  catalog := .ok sampleCatalog
  docs n r := if n = 0 then sampleAnswers.docs n r else none

def refetchActions : List Action :=
  [.announce ⟨"odd", [⟨1, 0, 0⟩]⟩, .launch 0, .endFetch 0] ++ List.replicate 3 .reduce

/-- The progress is read when all fetches have ended, and the state only after another one has
failed. -/
theorem answer_complete_overtaken :
    ∃ s t log log' started started' answer,
      follow firstAnswer (plainActions [3, 0, 1, 0]) (Session.start, [], []) =
        some (s, log, started) ∧
      follow firstAnswer refetchActions (s, log, started) = some (t, log', started') ∧
      Page.search Float Text.resembles "x" 10 "https://pkg.example" s.progress t.state =
        .ok answer ∧
      Page.pendingNote s.progress = [] ∧
      Page.Shows "x" "https://pkg.example" 10 t.state.contents
        (rank Text.resembles "x" t.state.values : Ranking Float) answer ∧
      s.progress.failed = 3 ∧ t.progress.failed = 4 ∧ started.length = 4 ∧
      ∃ m : Match Float, m.score = 0.0 ∧ m ∈ (rank Text.resembles "x" t.state.values).toList := by
  have hread : (follow firstAnswer (plainActions [3, 0, 1, 0]) (Session.start, [], [])).bind
      (fun c => (follow firstAnswer refetchActions c).map fun d =>
        (c.1.progress, d.1.progress.failed,
          (Page.search Float Text.resembles "x" 10 "https://pkg.example" c.1.progress
            d.1.state).isOk)) =
      some (⟨.loaded, 4, 1, 3⟩, 4, true) := by decide +kernel
  have hstarted : (follow firstAnswer (plainActions [3, 0, 1, 0]) (Session.start, [], [])).map
      (fun c => c.2.2) = some sampleCatalog.recent := rfl
  obtain ⟨⟨s, log, started⟩, h, hread⟩ := Option.bind_eq_some_iff.mp hread
  obtain ⟨⟨t, log', started'⟩, h', hlast⟩ := Option.map_eq_some_iff.mp hread
  rw [h, Option.map_some, Option.some.injEq] at hstarted
  obtain rfl : started = sampleCatalog.recent := hstarted
  simp only [Prod.mk.injEq] at hlast
  obtain ⟨hp, hp', hok⟩ := hlast
  have run : Run firstAnswer (fun _ => True) s log sampleCatalog.recent :=
    Run.follow .start (fun _ _ => trivial) h
  have hnote : Page.pendingNote s.progress = [] := by
    rw [hp]
    rfl
  cases hanswer : Page.search Float Text.resembles "x" 10 "https://pkg.example" s.progress
    t.state with
  | error e =>
    rw [hanswer] at hok
    cases hok
  | ok answer =>
    obtain ⟨-, hsearch⟩ := run.answer_complete h'
    obtain ⟨⟨body, hbody, hshows⟩, -, hcovers⟩ := hsearch _ _ _ _ hanswer
    obtain rfl : answer = body := by rw [hbody, hnote, List.append_nil]
    obtain ⟨-, hissued, hholds⟩ := hcovers hnote
    let r : Release := ⟨"a", "b", ⟨1, 0, 0⟩⟩
    have hfound : ((firstAnswer.docs 0 r).any fun d => (d.values r.identifier).any fun v =>
        (Query.ofText "x").score Text.resembles v = (0.0 : Float)) = true := by decide +kernel
    have hlow : Scale.le (0.0 : Float) Scale.low = true := by decide +kernel
    obtain ⟨d, hd, hvalues⟩ := (Option.any_eq_true _ _).mp hfound
    obtain ⟨v, hv, hscore⟩ := List.any_eq_true.mp hvalues
    have hevent : firstAnswer.event (Fetch.ofListing 0 ⟨"a/b", [⟨1, 0, 0⟩]⟩) =
        .docsArrived r d := congrArg (Fetch.event _) hd
    obtain ⟨-, hrank⟩ := hholds (Fetch.ofListing 0 ⟨"a/b", [⟨1, 0, 0⟩]⟩) List.mem_cons_self
    have hmatch := hrank r d hevent (by decide) ⟨0.0, v⟩ hv (of_decide_eq_true hscore).symm hlow
    exact ⟨s, t, log, log', _, started', answer, h, h', hanswer, hnote, hshows, by rw [hp], hp',
      by rw [hissued, hp], ⟨0.0, v⟩, rfl, hmatch⟩

end Session

end DocIndex
