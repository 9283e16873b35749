import DocIndex.Proofs.Session.Run
import Mathlib.Data.List.Perm.Basic

/-!
Accounting of fetches. Every fetch that is counted is in one place: announced or about to be
started, open, queued as an event, applied and not yet counted as ended, or counted as ended. So the
published counts never run ahead of the results.
-/
namespace DocIndex

def Event.status? : Event → Option CatalogStatus
  | .catalogArrived _ => some .loaded
  | .catalogFailed _ => some .failed
  | _ => none

theorem Event.status?_eq_none {e : Event} (h : e.isCatalog = false) : e.status? = none := by
  cases e with
  | catalogArrived c => cases h
  | catalogFailed e => cases h
  | _ => rfl

def Stage.uncounted : Stage → Log
  | .counting e _ => [e]
  | _ => []

/-- The listings that are counted and whose fetches the reducer is about to start. -/
def Stage.unstarted : Stage → List Listing
  | .starting ls => ls
  | _ => []

namespace Progress

@[simp] theorem issued_issue (p : Progress) (n : Nat) : (p.issue n).issued = p.issued + n := rfl

@[simp] theorem issued_tally (p : Progress) (e : Event) : (p.tally e).issued = p.issued := by
  cases e <;> rfl

theorem tally_issue (p : Progress) (n : Nat) (e : Event) :
    (p.issue n).tally e = (p.tally e).issue n := by
  cases e <;> rfl

theorem issue_issue (p : Progress) (m n : Nat) : (p.issue m).issue n = p.issue (m + n) := by
  simp [issue, Nat.add_assoc]

theorem resolved_tally (p : Progress) (e : Event) :
    (p.tally e).resolved = p.resolved + (Log.results [e]).length := by
  cases e <;> simp [tally, resolved, Log.results_singleton, Event.isResult] <;> omega

/-- Counted one by one, the results make up what is resolved. -/
theorem resolved_foldl_tally (p : Progress) (log : Log) :
    (log.foldl tally p).resolved = p.resolved + (Log.results log).length := by
  induction log generalizing p with
  | nil => rfl
  | cons e log ih =>
    have hcons : Log.results (e :: log) = Log.results [e] ++ Log.results log :=
      Log.results_append [e] log
    rw [List.foldl_cons, ih, resolved_tally, hcons, List.length_append, Nat.add_assoc]

theorem loaded_foldl_tally (p : Progress) (log : Log) :
    (log.foldl tally p).loaded = p.loaded + log.arrivals.length := by
  induction log using List.reverseRecOn with
  | nil => rfl
  | append_singleton log e ih =>
    rw [List.foldl_append, Log.arrivals_concat, List.length_append, ← Nat.add_assoc, ← ih]
    cases e <;> rfl

theorem failed_foldl_tally (p : Progress) (log : Log) :
    (log.foldl tally p).failed = p.failed + log.failures.length := by
  induction log using List.reverseRecOn with
  | nil => rfl
  | append_singleton log e ih =>
    rw [List.foldl_append, Log.failures_concat, List.length_append, ← Nat.add_assoc, ← ih]
    cases e <;> rfl

theorem catalog_tally (p : Progress) (e : Event) :
    (p.tally e).catalog = e.status?.getD p.catalog := by
  cases e <;> rfl

theorem catalog_foldl_tally (p : Progress) (log : Log) :
    (log.foldl tally p).catalog =
      (log.catalogEvents.filterMap Event.status?).getLast?.getD p.catalog := by
  induction log using List.reverseRecOn with
  | nil => rfl
  | append_singleton log e ih =>
    rw [List.foldl_append, List.foldl_cons, List.foldl_nil, catalog_tally, ih,
      Log.catalogEvents_append]
    cases e <;> simp [Log.catalogEvents_singleton, Event.isCatalog, Event.status?]

end Progress

namespace Session

variable {w : Answers} {allowed : Action → Prop} {s : Session} {log : Log}
  {started : List Listing}

/-- The fetches that are counted as issued and not yet counted as ended. -/
def untallied (s : Session) : Nat :=
  s.announced.length + s.stage.unstarted.length + s.fetches.length + (Log.results s.queue).length
    + (Log.results s.stage.uncounted).length

/-- The state is what the applied events leave. -/
theorem Run.state_eq (run : Run w allowed s log started) : s.state = log.state := by
  induction run using Run.induct with
  | start => rfl
  | step _ _ ih _ h =>
    cases h with
    | apply e rest hs hq => rw [Log.state_concat, ih]
    | _ => simpa using ih

/-- The requests are those of the started listings, in order. -/
theorem Run.requests_eq (run : Run w allowed s log started) :
    s.requests = Listing.releases started := by
  induction run using Run.induct with
  | start => rfl
  | step _ _ ih _ h => cases h <;> simpa using ih

/-- A fetch is counted as issued before it is started, announced by a caller or asked for by the
reducer. -/
theorem Run.issued_eq (run : Run w allowed s log started) :
    s.progress.issued =
      started.length + s.announced.length + s.stage.unstarted.length := by
  induction run using Run.induct with
  | start => rfl
  | step _ _ ih _ h =>
    cases h with
    | apply e rest hs hq => simpa [hs, Stage.unstarted] using ih
    | count e ls hs =>
      simp [hs, Stage.unstarted] at ih ⊢
      omega
    | begin l ls hs =>
      simp [hs, Stage.unstarted] at ih ⊢
      omega
    | rest hs => simpa [hs, Stage.unstarted] using ih
    | announce l =>
      simp at ih ⊢
      omega
    | launch i l hl =>
      obtain ⟨hlt, _⟩ := List.getElem?_eq_some_iff.mp hl
      simp [List.length_eraseIdx, hlt] at ih ⊢
      omega
    | retry a ls ha =>
      simp at ih ⊢
      omega
    | _ => simpa using ih

/-- The published counts are those of the applied events, less the one that is not yet counted. -/
theorem Run.exists_counted (run : Run w allowed s log started) :
    ∃ counted : Log, log = counted ++ s.stage.uncounted ∧
      s.progress = (counted.foldl Progress.tally Progress.start).issue s.progress.issued := by
  induction run using Run.induct with
  | start => exact ⟨[], rfl, rfl⟩
  | step _ _ ih _ h =>
    obtain ⟨counted, hlog, hp⟩ := ih
    cases h with
    | apply e rest hs hq =>
      refine ⟨counted, ?_, hp⟩
      simpa [hs, Stage.uncounted] using hlog
    | count e ls hs =>
      refine ⟨counted ++ [e], ?_, ?_⟩
      · simpa [hs, Stage.uncounted] using hlog
      · simp only [List.foldl_append, List.foldl_cons, List.foldl_nil, Progress.issued_issue,
          Progress.issued_tally, ← Progress.issue_issue]
        congr 1
        rw [← Progress.tally_issue, ← hp]
    | begin l ls hs => exact ⟨counted, by simpa [hs, Stage.uncounted] using hlog, hp⟩
    | rest hs => exact ⟨counted, by simpa [hs, Stage.uncounted] using hlog, hp⟩
    | announce l =>
      refine ⟨counted, by simpa using hlog, ?_⟩
      rw [Progress.issued_issue, ← Progress.issue_issue, ← hp]
    | retry a ls ha =>
      refine ⟨counted, by simpa using hlog, ?_⟩
      rw [Progress.issued_issue, ← Progress.issue_issue, ← hp]
    | _ => exact ⟨counted, by simpa using hlog, hp⟩

/-- The published place of the catalog is that of its last counted event. -/
theorem Run.exists_counted_catalog (run : Run w allowed s log started) :
    ∃ counted : Log, log = counted ++ s.stage.uncounted ∧
      s.progress.catalog =
        (counted.catalogEvents.filterMap Event.status?).getLast?.getD .pending := by
  obtain ⟨counted, hlog, hp⟩ := run.exists_counted
  have hcatalog := Progress.catalog_foldl_tally Progress.start counted
  refine ⟨counted, hlog, ?_⟩
  rw [hp]
  exact hcatalog

theorem isCatalog_catalogEvent (w : Answers) : w.catalogEvent.isCatalog = true := by
  unfold Answers.catalogEvent
  cases w.catalog <;> rfl

theorem isCatalog_event (w : Answers) (f : Fetch) : (w.event f).isCatalog = false := by
  unfold Answers.event Fetch.event
  cases w.docsOf f with
  | none => rfl
  | some d => cases f.request <;> rfl

theorem isResult_catalogEvent (w : Answers) : w.catalogEvent.isResult = false := by
  unfold Answers.catalogEvent
  cases w.catalog <;> rfl

theorem isResult_event (w : Answers) (f : Fetch) : (w.event f).isResult = true := by
  unfold Answers.event Fetch.event
  cases w.docsOf f with
  | none => rfl
  | some d => cases f.request <;> rfl

/-- Fetches that are started are open. -/
theorem results_perm_of_start {sent : Log} {fetches : List Fetch} {n : Nat}
    (hn : n = (Listing.releases started).length)
    (h : (Log.results sent ++ fetches.map w.event).Perm
      ((Fetch.ofListings 0 started).map w.event)) (ls : List Listing) :
    (Log.results sent ++ (fetches ++ Fetch.ofListings n ls).map w.event).Perm
      ((Fetch.ofListings 0 (started ++ ls)).map w.event) := by
  rw [Fetch.ofListings_append, List.map_append, List.map_append, ← List.append_assoc, Nat.zero_add,
    hn]
  exact h.append_right _

/-- Every started fetch is open or has sent its event, once. -/
theorem Run.results_perm (run : Run w allowed s log started) :
    (Log.results (log ++ s.queue) ++ s.fetches.map w.event).Perm
      ((Fetch.ofListings 0 started).map w.event) := by
  induction run using Run.induct with
  | start => exact .refl _
  | step run _ ih _ h =>
    have hn := congrArg List.length run.requests_eq
    cases h with
    | apply e rest hs hq => simpa [hq] using ih
    | begin l ls hs => simpa using results_perm_of_start hn ih [l]
    | endCatalog ho => simpa [Log.results_singleton, isResult_catalogEvent] using ih
    | endFetch i f hf =>
      obtain ⟨hi, rfl⟩ := List.getElem?_eq_some_iff.mp hf
      have hperm := (List.getElem_cons_eraseIdx_perm hi).map w.event
      simp only [List.append_nil, List.map_cons, ← List.append_assoc, Log.results_append,
        Log.results_singleton, isResult_event, if_true] at ih hperm ⊢
      rw [List.append_assoc _ [_]]
      exact (hperm.append_left _).trans ih
    | query a query ha => simpa [Log.results_singleton, Event.isResult] using ih
    | launch i l hl => simpa using results_perm_of_start hn ih [l]
    | retry a ls ha => simpa using results_perm_of_start hn ih _
    | _ => simpa using ih

/-- The catalog fetch is open or has sent its event, once. -/
theorem Run.catalogEvents_eq (run : Run w allowed s log started) :
    Log.catalogEvents (log ++ s.queue) = if s.catalogOpen then [] else [w.catalogEvent] := by
  induction run using Run.induct with
  | start => rfl
  | step _ _ ih _ h =>
    cases h with
    | apply e rest hs hq => simpa [hq] using ih
    | endCatalog ho =>
      rw [ho, if_pos rfl] at ih
      simp [← List.append_assoc, ih, Log.catalogEvents_singleton, isCatalog_catalogEvent]
    | endFetch i f hf => simpa [Log.catalogEvents_singleton, isCatalog_event] using ih
    | query a query ha => simpa [Log.catalogEvents_singleton, Event.isCatalog] using ih
    | _ => simpa using ih

/-- Before the catalog event comes no other one. -/
theorem Run.catalogEvents_before (run : Run w allowed s log started) {before after : Log}
    (h : log ++ s.queue = before ++ after) {e : Event} (he : e ∈ after) (hc : e.isCatalog = true) :
    before.catalogEvents = [] := by
  have hall := congrArg List.length run.catalogEvents_eq
  rw [h, Log.catalogEvents_append, List.length_append] at hall
  have hpos : 0 < after.catalogEvents.length :=
    List.length_pos_of_mem (List.mem_filter.mpr ⟨he, hc⟩)
  have hle : (if s.catalogOpen then [] else [w.catalogEvent]).length ≤ 1 := by
    split <;> simp
  exact List.length_eq_zero_iff.mp (by omega)

theorem Run.eq_catalogEvent (run : Run w allowed s log started) {e : Event}
    (he : e ∈ log ++ s.queue) (hc : e.isCatalog = true) : e = w.catalogEvent := by
  have hmem : e ∈ Log.catalogEvents (log ++ s.queue) := List.mem_filter.mpr ⟨he, hc⟩
  rw [run.catalogEvents_eq] at hmem
  split at hmem
  · cases hmem
  · exact List.mem_singleton.mp hmem

/-- Where the catalog is published to stand, unless it is pending, the applied catalog event has
brought it. -/
theorem Run.status?_catalogEvent (run : Run w allowed s log started)
    (h : s.progress.catalog ≠ .pending) :
    w.catalogEvent ∈ log ∧ w.catalogEvent.status? = some s.progress.catalog := by
  obtain ⟨counted, hlog, hcatalog⟩ := run.exists_counted_catalog
  obtain ⟨e, he, hstatus⟩ :
      ∃ e ∈ counted.catalogEvents, e.status? = some s.progress.catalog := by
    cases hlast : (counted.catalogEvents.filterMap Event.status?).getLast? with
    | none => exact absurd (by rw [hcatalog, hlast, Option.getD_none]) h
    | some status =>
      have hmem := List.mem_of_getLast? hlast
      rw [hcatalog, hlast, Option.getD_some]
      exact List.mem_filterMap.mp hmem
  obtain ⟨hmem, hc⟩ := List.mem_filter.mp he
  have hlogged : e ∈ log := by
    rw [hlog]
    exact List.mem_append_left _ hmem
  obtain rfl := run.eq_catalogEvent (List.mem_append_left _ hlogged) hc
  exact ⟨hlogged, hstatus⟩

/-- If the catalog is counted as loaded, the catalog fetch has brought one. -/
theorem Run.catalog_of_loaded (run : Run w allowed s log started)
    (h : s.progress.catalog = .loaded) : ∃ c, w.catalog = .ok c := by
  obtain ⟨-, hstatus⟩ := run.status?_catalogEvent (by simp [h])
  rw [h, Answers.catalogEvent] at hstatus
  cases hw : w.catalog with
  | ok c => exact ⟨c, rfl⟩
  | error e => simp [hw, Event.status?] at hstatus

/-- A catalog that the catalog fetch has brought does not fail. -/
theorem Run.catalogErrors_eq_nil (run : Run w allowed s log started) {c : Catalog}
    (hc : w.catalog = .ok c) : log.catalogErrors = [] := by
  rw [Log.catalogErrors, List.filterMap_eq_nil_iff]
  intro e he
  cases hcat : e.isCatalog with
  | true =>
    rw [run.eq_catalogEvent (List.mem_append_left _ he) hcat, Answers.catalogEvent, hc]
    rfl
  | false => exact Event.catalogError?_eq_none hcat

/-- Every counted fetch is in one place. -/
theorem Run.issued_eq_resolved_add (run : Run w allowed s log started) :
    s.progress.issued = s.progress.resolved + s.untallied := by
  have hissued := run.issued_eq
  have hlen := run.results_perm.length_eq
  obtain ⟨counted, hlog, hp⟩ := run.exists_counted
  have hresolved : s.progress.resolved = (Log.results counted).length := by
    have hfold := Progress.resolved_foldl_tally Progress.start counted
    rw [hp]
    simpa [Progress.start, Progress.resolved, Progress.issue] using hfold
  simp [hlog, untallied] at hlen ⊢
  omega

/-- A session that is counted as settled has nothing on its way, and the applied results are those
of all fetches. -/
theorem Run.results_of_settled (run : Run w allowed s log started)
    (hloaded : s.progress.catalog = .loaded) (hsettled : s.progress.settled = true) :
    s.fetches = [] ∧ Log.results s.queue = [] ∧ s.announced = [] ∧ s.stage.unstarted = [] ∧
      Log.results s.stage.uncounted = [] ∧ started.length = s.progress.issued ∧
      (Log.results log).Perm ((Fetch.ofListings 0 started).map w.event) := by
  have hle : s.progress.issued ≤ s.progress.resolved := by
    simpa [Progress.settled, hloaded] using hsettled
  have hzero : s.untallied = 0 := by
    have heq := run.issued_eq_resolved_add
    omega
  obtain ⟨⟨⟨⟨ha, hu⟩, hf⟩, hq⟩, hs⟩ : ((((s.announced = [] ∧ s.stage.unstarted = []) ∧
      s.fetches = []) ∧ Log.results s.queue = []) ∧ Log.results s.stage.uncounted = []) := by
    simpa [untallied] using hzero
  have hissued := run.issued_eq
  have hperm := run.results_perm
  simp only [ha, hu, hf, hq, List.length_nil, Nat.add_zero, Log.results_append, List.map_nil,
    List.append_nil] at hissued hperm
  exact ⟨hf, hq, ha, hu, hs, hissued.symm, hperm⟩

/-- Whatever the order of the steps, no more fetches are counted as ended than as issued, and the
difference is the fetches that are on their way. So once the catalog is counted as loaded and the
session as settled, nothing is on its way, and the state holds the result of every fetch that was
issued. -/
theorem Run.progress_exact (run : Run w allowed s log started) :
    s.progress.loaded + s.progress.failed ≤ s.progress.issued ∧
    s.progress.unresolved = s.untallied ∧
    (s.progress.catalog = .loaded → s.progress.settled = true →
      s.fetches = [] ∧ Log.results s.queue = [] ∧ s.announced = [] ∧ s.stage.unstarted = [] ∧
      Log.results s.stage.uncounted = [] ∧ started.length = s.progress.issued ∧
      (Log.results log).Perm ((Fetch.ofListings 0 started).map w.event) ∧
      (s.progress.issued ≠ 0 → s.state = .indexed (Log.index log))) := by
  have heq := run.issued_eq_resolved_add
  refine ⟨?_, ?_, fun hloaded hsettled => ?_⟩
  · rw [← Progress.resolved]
    omega
  · rw [Progress.unresolved]
    omega
  · obtain ⟨hf, hq, ha, hu, hs, hissued, hperm⟩ := run.results_of_settled hloaded hsettled
    refine ⟨hf, hq, ha, hu, hs, hissued, hperm, fun hne => ?_⟩
    obtain ⟨c, hc⟩ := run.catalog_of_loaded hloaded
    have hresult : log.hasResult = true := by
      cases hr : log.hasResult with
      | true => rfl
      | false =>
        have hnil := hperm.length_eq
        rw [(Log.results_eq_nil_iff log).mpr hr, List.length_map, Fetch.length_ofListings] at hnil
        exact absurd (hissued.symm.trans hnil.symm) hne
    rw [run.state_eq, Log.state, run.catalogErrors_eq_nil hc, List.getLast?_nil, hresult]
    rfl

/-- A package that is listed twice, one that addresses no release, one that is not updated, and one
with two versions. -/
def sampleCatalog : Catalog where
  listings := [⟨"a/b", [⟨1, 0, 0⟩]⟩, ⟨"odd", [⟨1, 0, 0⟩]⟩, ⟨"a/b", [⟨1, 0, 0⟩]⟩,
    ⟨"c/d", [⟨1, 0, 0⟩]⟩, ⟨"e/f", [⟨2, 0, 0⟩, ⟨1, 0, 0⟩]⟩]
  updated := ["e/f", "odd", "a/b"]

def sampleAnswers : Answers :=
  .ofSource sampleCatalog fun r =>
    if r.user = "e" then none
    else some (Docs.ofModules [⟨"M", "\n@docs x", TextMap.ofList [("x", ⟨"x", "", "Int"⟩)]⟩])

/-- A fetch that a caller announces before the catalog is there and starts while the reducer starts
its own, a search, and a retry of what is missing. -/
def retryingActions : List Action :=
  [.announce ⟨"c/d", [⟨1, 0, 0⟩]⟩, .endCatalog, .reduce,
    .call Settings.standard (.search "x" none), .reduce, .reduce, .launch 0, .reduce, .endFetch 1,
    .reduce, .reduce, .endFetch 1] ++ List.replicate 10 .reduce ++
  [.retryMissing, .endFetch 2, .endFetch 0, .endFetch 1, .endFetch 0] ++ List.replicate 12 .reduce

theorem progress_exact_retrying :
    ∃ s log started,
      follow sampleAnswers retryingActions (Session.start, [], []) = some (s, log, started) ∧
      s.progress = ⟨.loaded, 6, 3, 3⟩ ∧ s.fetches = [] ∧ started.length = 6 ∧
      (Log.results log).Perm ((Fetch.ofListings 0 started).map sampleAnswers.event) ∧
      s.state = .indexed (Log.index log) := by
  obtain ⟨⟨s, log, started⟩, h⟩ :
      ∃ c, follow sampleAnswers retryingActions (Session.start, [], []) = some c := ⟨_, rfl⟩
  have hp : s.progress = ⟨.loaded, 6, 3, 3⟩ := by
    have hrun : (follow sampleAnswers retryingActions (Session.start, [], [])).map
        (fun c => c.1.progress) = some ⟨.loaded, 6, 3, 3⟩ := rfl
    simpa [h] using hrun
  have run : Run sampleAnswers (fun _ => True) s log started :=
    Run.follow .start (fun _ _ => trivial) h
  have hloaded : s.progress.catalog = .loaded := by rw [hp]
  have hsettled : s.progress.settled = true := by
    rw [hp]
    rfl
  obtain ⟨hf, -, -, -, -, hstarted, hperm, hstate⟩ := run.progress_exact.2.2 hloaded hsettled
  rw [hp] at hstarted hstate
  exact ⟨s, log, started, h, hp, hf, hstarted, hperm, hstate (by decide)⟩

end Session

end DocIndex
