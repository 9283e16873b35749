import DocIndex.Proofs.Release
import DocIndex.Proofs.Session.Drained

/-!
What becomes of a catalog when no caller fetches a listing again: the fetches are those of the
updated listings, one each and in order, and each of them ends as an arrival or as a failure.
-/
namespace DocIndex.Session

/-- No caller fetches a listing again. -/
def Unretried (a : Action) : Prop := a.retries = false

variable {w : Answers} {allowed : Action → Prop} {s : Session} {log : Log}
  {started : List Listing} {c : Catalog}

theorem Run.announced_eq_nil (run : Run w Unretried s log started) : s.announced = [] := by
  induction run using Run.induct with
  | start => rfl
  | step _ _ ih ha h =>
    cases h with
    | announce l => cases ha
    | launch i l hl =>
      rw [ih] at hl
      cases hl
    | _ => exact ih

/-- Until its event is counted, the catalog is not there. -/
theorem Run.catalog_pending (run : Run w allowed s log started) {e : Event}
    (he : e ∈ s.stage.uncounted ++ s.queue) (hc : e.isCatalog = true) :
    s.progress.catalog = .pending := by
  obtain ⟨counted, hlog, hcatalog⟩ := run.exists_counted_catalog
  have hsent : log ++ s.queue = counted ++ (s.stage.uncounted ++ s.queue) := by
    rw [hlog, List.append_assoc]
  rw [hcatalog, run.catalogEvents_before hsent he hc]
  rfl

/-- A run over a catalog `c`: the reducer has counted the updated listings once the catalog is
there, and it is about to count them when it has just applied it. -/
structure FannedOut (c : Catalog) (s : Session) (started : List Listing) : Prop where
  counted : started ++ s.stage.unstarted =
    if s.progress.catalog = .loaded then c.recent else []
  asked : ∀ e ls, s.stage = .counting e ls → ls = if e.isCatalog then c.recent else []

/-- The catalog asks for its updated listings when it is applied, and no other event asks for
any. -/
theorem Run.requested_eq (run : Run w allowed s log started) (hc : w.catalog = .ok c) {e : Event}
    {rest : List Event} (hq : s.queue = e :: rest)
    (hstarted : e.isCatalog = true → started = []) :
    s.state.requested e = if e.isCatalog then c.recent else [] := by
  rw [run.state_eq, Log.requested_state]
  cases he : e.isCatalog with
  | true =>
    have hcat : e = w.catalogEvent := run.eq_catalogEvent (by simp [hq]) he
    have hresult : log.hasResult = false := by
      have hperm := run.results_perm
      rw [hstarted he] at hperm
      have hnil := (List.append_eq_nil_iff.mp hperm.eq_nil).1
      rw [Log.results_append, List.append_eq_nil_iff] at hnil
      exact (Log.results_eq_nil_iff log).mp hnil.1
    simp [run.catalogErrors_eq_nil hc, hresult, hcat, Answers.catalogEvent, hc, Event.catalog?]
  | false => simp [Event.catalog?_eq_none he]

theorem Run.fannedOut (run : Run w Unretried s log started) (hc : w.catalog = .ok c) :
    FannedOut c s started := by
  induction run using Run.induct with
  | start => exact ⟨rfl, fun e ls h => by cases h⟩
  | @step s _ _ _ started _ _ run _ ih ha h =>
    obtain ⟨hcounted, hasked⟩ := ih
    cases h with
    | apply e rest hs hq =>
      refine ⟨by simpa [hs, Stage.unstarted] using hcounted, fun e' ls h => ?_⟩
      obtain ⟨rfl, rfl⟩ : e = e' ∧ _ = ls := by simpa using h
      refine run.requested_eq hc hq fun he => ?_
      have hpending := run.catalog_pending (e := e) (by simp [hq]) he
      simpa [hpending, hs, Stage.unstarted] using hcounted
    | count e ls hs =>
      refine ⟨?_, fun e' ls' h => by cases h⟩
      have hls := hasked e ls hs
      cases he : e.isCatalog with
      | true =>
        have hcat : e = w.catalogEvent := by
          obtain ⟨counted, hlog, -⟩ := run.exists_counted
          exact run.eq_catalogEvent (by simp [hlog, hs, Stage.uncounted]) he
        have hpending := run.catalog_pending (e := e) (by simp [hs, Stage.uncounted]) he
        have hloaded : (s.progress.tally e).catalog = .loaded := by
          rw [Progress.catalog_tally, hcat, Answers.catalogEvent, hc]
          rfl
        have hnone : started = [] := by simpa [hpending, hs, Stage.unstarted] using hcounted
        simp [Progress.issue, hloaded, hls, he, hnone, Stage.unstarted]
      | false =>
        have hsame : (s.progress.tally e).catalog = s.progress.catalog := by
          rw [Progress.catalog_tally, Event.status?_eq_none he, Option.getD_none]
        simpa [Progress.issue, hsame, hls, he, hs, Stage.unstarted] using hcounted
    | begin l ls hs =>
      refine ⟨by simpa [hs, Stage.unstarted] using hcounted, fun e' ls' h => by cases h⟩
    | rest hs =>
      refine ⟨by simpa [hs, Stage.unstarted] using hcounted, fun e' ls' h => by cases h⟩
    | announce l => cases ha
    | launch i l hl =>
      rw [run.announced_eq_nil] at hl
      cases hl
    | retry a ls hr =>
      rw [ha] at hr
      cases hr
    | _ => exact ⟨by simpa using hcounted, hasked⟩

/-- A fetch is counted for every updated listing as soon as the catalog is. -/
theorem Run.issued_of_unretried (run : Run w Unretried s log started) (hc : w.catalog = .ok c) :
    s.progress.issued = if s.progress.catalog = .loaded then c.recent.length else 0 := by
  have hissued := run.issued_eq
  have hlen := congrArg List.length (run.fannedOut hc).counted
  rw [run.announced_eq_nil] at hissued
  rw [List.length_append] at hlen
  split at hlen
  next h =>
    rw [if_pos h]
    simpa using hissued.trans hlen
  next h =>
    rw [if_neg h]
    simpa using hissued.trans hlen

theorem Run.started_prefix (run : Run w Unretried s log started) (hc : w.catalog = .ok c) :
    started <+: c.recent := by
  have hcounted := (run.fannedOut hc).counted
  split at hcounted
  next => exact ⟨s.stage.unstarted, hcounted⟩
  next =>
    rw [(List.append_eq_nil_iff.mp hcounted).1]
    exact List.nil_prefix

/-- Once all that is counted is started, the updated listings are started. -/
theorem Run.started_eq (run : Run w Unretried s log started) (hc : w.catalog = .ok c)
    (hloaded : s.progress.catalog = .loaded) (hu : s.stage.unstarted = []) :
    started = c.recent := by
  simpa [hloaded, hu] using (run.fannedOut hc).counted

/-- Every request is the one of an updated listing's first version. -/
theorem Run.request_of_listing (run : Run w Unretried s log started) (hc : w.catalog = .ok c)
    {r : Release} (hr : r ∈ s.requests) :
    ∃ l ∈ c.recent, l.identifier = r.user ++ '/' :: r.project ∧
      l.versions.head? = some r.version := by
  rw [run.requests_eq] at hr
  obtain ⟨l, hl, hok⟩ := Listing.mem_releases_iff.mp hr
  obtain ⟨hident, -, -, hversion⟩ := Release.ofListing_eq_ok_iff.mp hok
  exact ⟨l, (run.started_prefix hc).subset hl, hident, hversion⟩

/-- What is known in the end is what was answered for the updated listings. -/
theorem Run.contents_of_drained (run : Run w Unretried s log started) (hc : w.catalog = .ok c)
    (hd : s.Drained) :
    s.state.contents = log.index ∧ log.arrivals.Perm (w.arrivals c.recent) ∧
    log.failures.Perm (w.failures c.recent) := by
  have hstarted : started = c.recent :=
    run.started_eq hc (run.catalog_of_drained hd hc) (by rw [hd.stage]; rfl)
  refine ⟨?_, hstarted ▸ run.arrivals_perm hd, hstarted ▸ run.failures_perm hd⟩
  rw [run.state_eq, Log.contents_state (run.catalogErrors_eq_nil hc)]

/-- The documentation of every updated listing is fetched exactly once, in whatever order fetches
end. The requests are those of the updated listings, in order and each for the first version; in the
end every updated listing has arrived or failed; and every run comes to its end. -/
theorem Run.fetches_once (run : Run w Unretried s log started) (hc : w.catalog = .ok c) :
    s.progress.issued = (if s.progress.catalog = .loaded then c.recent.length else 0) ∧
    s.requests <+: Listing.releases c.recent ∧
    (∀ r ∈ s.requests, ∃ l ∈ c.recent, l.identifier = r.user ++ '/' :: r.project ∧
      l.versions.head? = some r.version) ∧
    (s.progress.catalog = .loaded → s.stage.unstarted = [] →
      s.requests = Listing.releases c.recent) ∧
    (s.Drained →
      s.progress.catalog = .loaded ∧ s.requests = Listing.releases c.recent ∧
      log.arrivals.length + s.state.contents.failed.length = c.recent.length ∧
      s.state.contents.failed.Perm (w.failures c.recent) ∧
      ∀ key, key ∈ s.state.contents.holdings.keys ↔
        ∃ n r d, (Listing.releases c.recent)[n]? = some r ∧ w.docs n r = some d ∧
          r.identifier = key) ∧
    ∃ t more later, Run w Unretried t (log ++ more) (started ++ later) ∧ t.Drained := by
  have hrequests : s.progress.catalog = .loaded → s.stage.unstarted = [] →
      s.requests = Listing.releases c.recent := by
    intro hloaded hu
    rw [run.requests_eq, run.started_eq hc hloaded hu]
  have hprefix : s.requests <+: Listing.releases c.recent := by
    rw [run.requests_eq]
    exact (run.started_prefix hc).filterMap _
  refine ⟨run.issued_of_unretried hc, hprefix, fun r hr => run.request_of_listing hc hr, hrequests,
    fun hd => ?_, run.exists_drained fun a ha => Action.retries_of_advances ha⟩
  have hloaded := run.catalog_of_drained hd hc
  obtain ⟨hcontents, harrivals, hfailures⟩ := run.contents_of_drained hc hd
  rw [hcontents]
  refine ⟨hloaded, hrequests hloaded (by rw [hd.stage]; rfl), ?_, hfailures, fun key => ?_⟩
  · rw [harrivals.length_eq, Log.index, hfailures.length_eq]
    exact w.length_arrivals_add_failures c.recent
  · rw [Log.mem_keys_holdings]
    constructor
    · rintro ⟨⟨r, d⟩, ha, hkey⟩
      obtain ⟨n, hn, hd⟩ := w.mem_arrivals.mp (harrivals.mem_iff.mp ha)
      exact ⟨n, r, d, hn, hd, hkey⟩
    · rintro ⟨n, r, d, hn, hd, hkey⟩
      exact ⟨(r, d), harrivals.mem_iff.mpr (w.mem_arrivals.mpr ⟨n, hn, hd⟩), hkey⟩

def plainActions (ends : List Nat) : List Action :=
  [.setQuery "x", .endCatalog] ++ List.replicate 10 .reduce ++ ends.map .endFetch ++
    List.replicate (3 * ends.length) .reduce

theorem unretried_of_mem_plainActions {ends : List Nat} : ∀ a ∈ plainActions ends, Unretried a := by
  intro a ha
  simp only [plainActions, List.mem_append, List.mem_cons, List.not_mem_nil, or_false,
    List.mem_replicate, List.mem_map] at ha
  rcases ha with (((rfl | rfl) | ⟨-, rfl⟩) | ⟨i, -, rfl⟩) | ⟨-, rfl⟩ <;> rfl

theorem exists_plain_run (ends : List Nat)
    (hend : (follow sampleAnswers (plainActions ends) (Session.start, [], [])).map
      (fun c => (c.1.stage, c.1.queue, c.1.announced, c.1.fetches, c.1.catalogOpen)) =
        some (.idle, [], [], [], false)) :
    ∃ s log started,
      follow sampleAnswers (plainActions ends) (Session.start, [], []) = some (s, log, started) ∧
      s.Drained ∧ Run sampleAnswers Unretried s log started :=
  exists_drained_run _ _ unretried_of_mem_plainActions hend

theorem fetches_once_plain :
    ∃ s log started,
      follow sampleAnswers (plainActions [3, 0, 1, 0]) (Session.start, [], []) =
        some (s, log, started) ∧
      s.Drained ∧ s.progress.issued = 4 ∧ s.requests = Listing.releases sampleCatalog.recent ∧
      log.arrivals.length + s.state.contents.failed.length = 4 ∧
      ("a/b/1.0.0" : Text) ∈ s.state.contents.holdings.keys := by
  obtain ⟨s, log, started, h, hd, run⟩ := exists_plain_run [3, 0, 1, 0] rfl
  obtain ⟨hissued, -, -, -, hdrained, -⟩ := run.fetches_once (c := sampleCatalog) rfl
  obtain ⟨hloaded, hrequests, hcount, -, hkeys⟩ := hdrained hd
  rw [hloaded] at hissued
  have hkey := (hkeys "a/b/1.0.0").mpr ⟨0, ⟨"a", "b", ⟨1, 0, 0⟩⟩, _, by decide, rfl, by decide⟩
  exact ⟨s, log, started, h, hd, hissued, hrequests, hcount, hkey⟩

end DocIndex.Session
