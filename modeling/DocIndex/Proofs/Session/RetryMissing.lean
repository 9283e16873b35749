import DocIndex.Proofs.Session.Quiescence
import DocIndex.Proofs.Session.Snapshots
import DocIndex.Proofs.State.Missing

/-!
What a retry of all that is missing fetches. It depends on the identifiers of failed listings and on
the keys of held releases, so it takes that documentation comes only from the fetches of the
session: the keys are then those of packages with a user and a project.
-/
namespace DocIndex

/-- Every listing has a fetch of its own. -/
theorem Fetch.exists_ofListing_mem (n : Nat) {l : Listing} {ls : List Listing} (hl : l ∈ ls) :
    ∃ k, ofListing k l ∈ ofListings n ls := by
  induction ls generalizing n with
  | nil => cases hl
  | cons m ls ih =>
    rw [ofListings]
    rcases List.mem_cons.mp hl with rfl | hl
    · exact ⟨n, List.mem_cons_self⟩
    · obtain ⟨k, hk⟩ := ih (n + m.release?.toList.length) hl
      exact ⟨k, List.mem_cons_of_mem _ hk⟩

namespace Session

variable {w : Answers} {s t u : Session} {log more : Log}

/-- The sessions that can follow on a session, with the events that the reducer applies on the way.
Fetches end in any way, and callers fetch any listing at any time. Documentation comes only from
fetches; what else happens may also be sent from outside. -/
inductive Proceeds (s : Session) : Log → Session → Prop where
  | refl : Proceeds s [] s
  | reduce {log : Log} {t u : Session} (h : Proceeds s log t) (hu : t.reduce = some u) :
      Proceeds s (log ++ t.appliedBy .reduce) u
  | endCatalog {log : Log} {t u : Session} (h : Proceeds s log t)
      (result : Except FetchError Catalog) (hu : t.endCatalog result = some u) : Proceeds s log u
  | endFetch {log : Log} {t u : Session} (h : Proceeds s log t) (i : Nat) (docs : Option Docs)
      (hu : t.endFetch i docs = some u) : Proceeds s log u
  | send {log : Log} {t : Session} (h : Proceeds s log t) (e : Event) (he : e.docs? = none) :
      Proceeds s log (t.send e)
  | announce {log : Log} {t : Session} (h : Proceeds s log t) (l : Listing) :
      Proceeds s log (t.announce l)
  | launch {log : Log} {t u : Session} (h : Proceeds s log t) (i : Nat)
      (hu : t.launch i = some u) : Proceeds s log u

namespace Proceeds

theorem append_nil (h : Proceeds s log t) : Proceeds s (log ++ []) t := by
  rwa [List.append_nil]

theorem trans (h : Proceeds s log t) (hu : Proceeds t more u) : Proceeds s (log ++ more) u := by
  induction hu with
  | refl => exact h.append_nil
  | reduce _ hr ih =>
    rw [← List.append_assoc]
    exact ih.reduce hr
  | endCatalog _ result hr ih => exact ih.endCatalog result hr
  | endFetch _ i docs hr ih => exact ih.endFetch i docs hr
  | send _ e he ih => exact ih.send e he
  | announce _ l ih => exact ih.announce l
  | launch _ i hr ih => exact ih.launch i hr

theorem foldl_retry (h : Proceeds s log t) (ls : List Listing) :
    Proceeds s log (ls.foldl retry t) := by
  induction ls generalizing t with
  | nil => exact h
  | cons l ls ih => exact ih ((h.announce l).launch _ (launch_announce t l))

theorem act (h : Proceeds s log t) {a : Action} (ha : t.act w a = some u) :
    Proceeds s (log ++ t.appliedBy a) u := by
  cases a with
  | reduce => exact h.reduce ha
  | endCatalog => exact (h.endCatalog _ ha).append_nil
  | endFetch i =>
    obtain ⟨f, -, hf⟩ := Option.bind_eq_some_iff.mp ha
    exact (h.endFetch i _ hf).append_nil
  | setQuery query =>
    obtain rfl := Option.some.inj ha
    exact (h.send (.queryChanged query) rfl).append_nil
  | announce l =>
    obtain rfl := Option.some.inj ha
    exact (h.announce l).append_nil
  | launch i => exact (h.launch i ha).append_nil
  | retryMissing =>
    obtain rfl := Option.some.inj ha
    exact (h.foldl_retry t.missing).append_nil
  | call g c =>
    obtain rfl := Option.some.inj ha
    rw [call_fst]
    cases c with
    | search query limit => exact (h.send (.queryChanged (Text.trim query)) rfl).append_nil
    | _ => exact (h.foldl_retry _).append_nil

/-- The outcome of actions follows on their start. -/
theorem follow {actions : List Action} {started started' : List Listing} {log' : Log}
    (h : Proceeds s log t)
    (ha : Session.follow w actions (t, log, started) = some (u, log', started')) :
    Proceeds s log' u := by
  induction actions generalizing t log started with
  | nil =>
    obtain ⟨rfl, rfl, rfl⟩ : t = u ∧ log = log' ∧ started = started' := by
      simpa [Session.follow] using ha
    exact h
  | cons a actions ih =>
    obtain ⟨v, hv, ha⟩ := Option.bind_eq_some_iff.mp ha
    exact ih (h.act hv) ha

/-- The state is that of the applied events. -/
theorem state_eq (h : Proceeds s log t) : t.state = s.state.afterAll log := by
  induction h with
  | refl => rfl
  | reduce _ hr ih =>
    cases reduction_of_reduce hr with
    | apply e rest hs hq => simp [appliedBy, hs, hq, State.afterAll, ih]
    | count e ls hs => simpa [appliedBy, hs] using ih
    | begin l ls hs => simpa [appliedBy, hs] using ih
    | rest hs => simpa [appliedBy, hs] using ih
  | endCatalog _ result hr ih =>
    unfold Session.endCatalog at hr
    split at hr
    · obtain rfl := Option.some.inj hr
      exact ih
    · cases hr
  | endFetch _ i docs hr ih =>
    obtain ⟨f, -, rfl⟩ := Option.map_eq_some_iff.mp hr
    exact ih
  | send _ e he ih => exact ih
  | announce _ l ih => exact ih
  | launch _ i hr ih =>
    obtain ⟨l, -, rfl⟩ := Option.map_eq_some_iff.mp hr
    rw [startFetch_eq]
    exact ih

end Proceeds

/-- Requests are made only for the releases that listings address, and only their documentation is
sent. -/
structure Addressed (s : Session) (log : Log) : Prop where
  fetches : ∀ f ∈ s.fetches, ∀ r ∈ f.request, Release.ofListing f.listing = .ok r.2
  events : ∀ r d, .docsArrived r d ∈ log ++ s.queue → ∃ l, Release.ofListing l = .ok r

/-- Only the open fetches and what is sent matter. -/
theorem Addressed.frame (h : Addressed s log) (hf : t.fetches = s.fetches)
    (hq : t.queue = s.queue) : Addressed t log := by
  refine ⟨?_, ?_⟩
  · rw [hf]
    exact h.fetches
  · rw [hq]
    exact h.events

theorem Addressed.startFetch (h : Addressed s log) (l : Listing) :
    Addressed (s.startFetch l) log := by
  rw [startFetch_eq]
  refine ⟨fun f hf r hr => ?_, h.events⟩
  rcases List.mem_append.mp hf with hf | hf
  · exact h.fetches f hf r hr
  · obtain rfl := List.mem_singleton.mp hf
    obtain ⟨q, hq, rfl⟩ := Option.map_eq_some_iff.mp hr
    exact Listing.release?_eq_some_iff.mp hq

theorem Addressed.send (h : Addressed s log) {e : Event}
    (he : ∀ r d, e.docs? = some (r, d) → ∃ l, Release.ofListing l = .ok r) :
    Addressed (s.send e) log := by
  refine ⟨h.fetches, fun r d hd => ?_⟩
  rw [Session.send, ← List.append_assoc, List.mem_append, List.mem_singleton] at hd
  rcases hd with hd | rfl
  · exact h.events r d hd
  · exact he r d rfl

theorem Addressed.reduce (h : Addressed s log) (hr : s.reduce = some t) :
    Addressed t (log ++ s.appliedBy .reduce) := by
  cases reduction_of_reduce hr with
  | apply e rest hs hq =>
    refine ⟨h.fetches, ?_⟩
    simpa [appliedBy, hs, hq] using h.events
  | count e ls hs =>
    refine ⟨h.fetches, ?_⟩
    simpa [appliedBy, hs] using h.events
  | begin l ls hs =>
    have hbegun : Addressed { s with stage := .starting ls } log := h.frame rfl rfl
    simpa [appliedBy, hs, startFetch_eq] using hbegun.startFetch l
  | rest hs =>
    refine ⟨h.fetches, ?_⟩
    simpa [appliedBy, hs] using h.events

theorem Addressed.endFetch (h : Addressed s log) {i : Nat} {docs : Option Docs}
    (ht : s.endFetch i docs = some t) : Addressed t log := by
  obtain ⟨f, hf, rfl⟩ := Option.map_eq_some_iff.mp ht
  have hleft : Addressed { s with fetches := s.fetches.eraseIdx i } log :=
    ⟨fun g hg => h.fetches g (List.mem_of_mem_eraseIdx hg), h.events⟩
  refine hleft.send fun r d hd => ⟨f.listing, ?_⟩
  cases docs with
  | none => cases hd
  | some docs =>
    cases hrequest : f.request with
    | none =>
      rw [Fetch.event, hrequest] at hd
      cases hd
    | some request =>
      rw [Fetch.event, hrequest] at hd
      obtain ⟨rfl, rfl⟩ := Prod.mk.inj (Option.some.inj hd)
      exact h.fetches f (List.mem_of_getElem? hf) request hrequest

theorem Proceeds.addressed (h : Proceeds Session.start log t) : Addressed t log := by
  induction h with
  | refl =>
    refine ⟨fun f hf => ?_, fun r d hd => ?_⟩
    · cases hf
    · cases hd
  | reduce _ hr ih => exact ih.reduce hr
  | @endCatalog _ t _ _ result hr ih =>
    have hclosed : Addressed { t with catalogOpen := false } _ := ih.frame rfl rfl
    unfold Session.endCatalog at hr
    split at hr
    · obtain rfl := Option.some.inj hr
      refine hclosed.send fun r d hd => ?_
      cases result <;> cases hd
    · cases hr
  | endFetch _ i docs hr ih => exact ih.endFetch hr
  | send _ e he ih =>
    refine ih.send fun r d hd => ?_
    rw [he] at hd
    cases hd
  | announce _ l ih => exact ⟨ih.fetches, ih.events⟩
  | @launch _ t _ _ i hr ih =>
    obtain ⟨l, -, rfl⟩ := Option.map_eq_some_iff.mp hr
    have hleft : Addressed { t with announced := t.announced.eraseIdx i } _ := ih.frame rfl rfl
    exact hleft.startFetch l

theorem missing_eq (s : Session) : s.missing = s.state.contents.missing := by
  unfold missing
  cases s.state <;> rfl

theorem missing_of_not_indexed (h : ∀ i, s.state ≠ .indexed i) : s.missing = [] := by
  cases hs : s.state with
  | indexed i => exact absurd hs (h i)
  | _ => simp [missing, hs, State.index?]

theorem Proceeds.state_eq_state (h : Proceeds Session.start log s) : s.state = log.state :=
  h.state_eq.trans (Log.afterAll_waiting log)

theorem Proceeds.addressed_contents (h : Proceeds Session.start log s) :
    s.state.contents.Addressed := by
  cases hs : s.state with
  | indexed i =>
    rw [h.state_eq_state] at hs
    obtain rfl := Log.index_of_state hs
    exact Log.addressed_index fun r d hd => h.addressed.events r d (List.mem_append_left _ hd)
  | _ =>
    intro key held hheld
    cases hheld

/-- Once all that was missing has arrived, nothing is missing. -/
theorem Proceeds.missing_eq_nil (h : Proceeds Session.start log s) (hu : Proceeds s more u)
    (hsucceed : ∀ l ∈ s.missing, ∃ r d, Release.ofListing l = .ok r ∧ .docsArrived r d ∈ more)
    (hfailures : more.failures = []) : u.missing = [] := by
  cases hstate : u.state with
  | indexed j =>
    rw [(h.trans hu).state_eq_state] at hstate
    have herrors : (log ++ more).catalogErrors = [] :=
      Log.catalogErrors_of_state fun e he => by rw [hstate] at he; cases he
    have hbefore : log.catalogErrors = [] := by
      rw [Log.catalogErrors, List.filterMap_append] at herrors
      exact (List.append_eq_nil_iff.mp herrors).1
    rw [missing_eq, h.state_eq_state, Log.contents_state hbefore] at hsucceed
    rw [missing_eq, (h.trans hu).state_eq_state, Log.contents_state herrors]
    exact Log.missing_append_eq_nil hfailures hsucceed
  | _ => exact missing_of_not_indexed (by simp [hstate])

theorem retryMissing_eq (s : Session) : s.retryMissing = { s with
    progress := s.progress.issue s.missing.length
    fetches := s.fetches ++ Fetch.ofListings s.requests.length s.missing
    requests := s.requests ++ Listing.releases s.missing } := foldl_retry_eq s s.missing

theorem missing_retryMissing (s : Session) : s.retryMissing.missing = s.missing := by
  rw [retryMissing_eq]
  rfl

def retriedReply : Nat → Text
  | 0 => "No failed packages to retry."
  | n => "Retrying ".toList ++ Text.ofNat n ++
      " failed packages. Check status for progress.".toList

theorem call_retry_none (g : Settings) (s : Session) :
    s.call Float Text.resembles g (.retry none) =
      (s.retryMissing, .ok (retriedReply s.missing.length)) := by
  rw [call, callRetry, retryMissing]
  cases s.missing <;> rfl

/-- A retry of all that is missing fetches no more and no less than that, whatever has happened to
the session. It fetches each identifier once, in the order of first failure and from the listing
that failed first, and none of which a release is held; and it leaves out no failed package with a
user and a project of which no release is held. Its answer tells how many fetches it has counted and
started, and the state stays as it is. When all of these fetches have brought documentation and
nothing else has failed, the next retry fetches nothing. -/
theorem Proceeds.retryMissing_exact (h : Proceeds Session.start log s) (g : Settings) :
    s.call Float Text.resembles g (.retry none) =
      (s.retryMissing, .ok (retriedReply s.missing.length)) ∧
    s.retryMissing = { s with
      progress := s.progress.issue s.missing.length
      fetches := s.fetches ++ Fetch.ofListings s.requests.length s.missing
      requests := s.requests ++ Listing.releases s.missing } ∧
    ((∀ i, s.state ≠ .indexed i) → s.missing = [] ∧ s.retryMissing = s) ∧
    (∀ i, s.state = .indexed i →
      (s.missing.map Listing.identifier).Nodup ∧
      s.missing.Pairwise (fun l m =>
        Listing.place i.failed l.identifier < Listing.place i.failed m.identifier) ∧
      (∀ l ∈ s.missing, i.failed.find? (fun m => m.identifier = l.identifier) = some l ∧
        ∀ key held, i.holdings.get? key = some held → held.release.package ≠ l.identifier) ∧
      ∀ l ∈ i.failed, ∀ user project, l.identifier = user ++ '/' :: project →
        '/' ∉ user → '/' ∉ project →
        (∀ key held, i.holdings.get? key = some held →
          ¬(held.release.user = user ∧ held.release.project = project)) →
        ∃ m ∈ s.missing, m.identifier = l.identifier) ∧
    ∀ more u, Proceeds s.retryMissing more u →
      (∀ f ∈ Fetch.ofListings s.requests.length s.missing,
        ∃ n r d, f.request = some (n, r) ∧ .docsArrived r d ∈ more) →
      Log.failures more = [] →
      u.missing = [] ∧ u.call Float Text.resembles g (.retry none) =
        (u, .ok "No failed packages to retry.") := by
  refine ⟨call_retry_none g s, retryMissing_eq s, fun hnone => ?_, fun i hi => ?_,
    fun more u hu hsucceed hfailures => ?_⟩
  · have hmissing := missing_of_not_indexed hnone
    rw [retryMissing, hmissing]
    exact ⟨rfl, rfl⟩
  · have haddressed : i.Addressed := by
      have hcontents := h.addressed_contents
      rwa [hi] at hcontents
    have hmissing : s.missing = i.missing := by rw [missing_eq, hi]; rfl
    rw [hmissing]
    refine ⟨i.nodup_missing, i.pairwise_missing, fun l hl => ?_,
      fun l hl user project hid huser hproject hunheld => ?_⟩
    · exact ⟨(Index.mem_missing_iff.mp hl).1, fun key held hheld => haddressed.package_ne hl hheld⟩
    · exact haddressed.exists_mem_missing hl hid huser hproject hunheld
  · have hretry : Proceeds Session.start log s.retryMissing := h.foldl_retry s.missing
    have hmissing : u.missing = [] := by
      refine hretry.missing_eq_nil hu (fun l hl => ?_) hfailures
      rw [missing_retryMissing] at hl
      obtain ⟨k, hk⟩ := Fetch.exists_ofListing_mem s.requests.length hl
      obtain ⟨n, r, d, hrequest, harrived⟩ := hsucceed _ hk
      obtain ⟨q, hq, heq⟩ := Option.map_eq_some_iff.mp hrequest
      obtain ⟨-, rfl⟩ := Prod.mk.inj heq
      exact ⟨q, d, Listing.release?_eq_some_iff.mp hq, harrived⟩
    refine ⟨hmissing, ?_⟩
    rw [call_retry_none, retryMissing, hmissing]
    rfl

/-- A catalog that lists one package twice and another one whose identifier starts alike. Of the
first requests only the one for the other package brings documentation, later ones all do. -/
def recoveringAnswers : Answers where
  catalog := .ok {
    listings := [⟨"a/b", [⟨1, 0, 0⟩]⟩, ⟨"a/bc", [⟨1, 0, 0⟩]⟩, ⟨"a/b", [⟨2, 0, 0⟩]⟩]
    updated := ["a/b", "a/bc"] }
  docs := fun n _ => if n = 0 ∨ n = 2 then none else some (Log.oneValue "")

def firstFetches : List Action :=
  [.endCatalog] ++ List.replicate 6 .reduce ++ List.replicate 3 (.endFetch 0) ++
    List.replicate 9 .reduce

def secondFetch : List Action := [.endFetch 0, .reduce, .reduce, .reduce]

/-- The package that failed twice is fetched once again, from its first listing and although the
other package is held, and after that there is nothing to fetch. -/
theorem retryMissing_exact_recovering :
    ∃ s log started u more later,
      follow recoveringAnswers firstFetches (Session.start, [], []) = some (s, log, started) ∧
      s.progress = ⟨.loaded, 3, 1, 2⟩ ∧ s.missing = [⟨"a/b", [⟨1, 0, 0⟩]⟩] ∧
      s.state.contents.holdings.keys = ["a/bc/1.0.0"] ∧
      s.call Float Text.resembles Settings.standard (.retry none) =
        (s.retryMissing, .ok (retriedReply 1)) ∧
      s.retryMissing.progress = ⟨.loaded, 4, 1, 2⟩ ∧
      follow recoveringAnswers secondFetch (s.retryMissing, [], []) = some (u, more, later) ∧
      u.missing = [] ∧ u.call Float Text.resembles Settings.standard (.retry none) =
        (u, .ok "No failed packages to retry.") := by
  obtain ⟨⟨s, log, started⟩, h⟩ :
      ∃ c, follow recoveringAnswers firstFetches (Session.start, [], []) = some c := ⟨_, rfl⟩
  have hend : (follow recoveringAnswers firstFetches (Session.start, [], [])).map (fun c =>
      (c.1.progress, c.1.missing, c.1.requests.length, c.1.state.contents.holdings.keys)) =
      some ((⟨.loaded, 3, 1, 2⟩ : Progress), ([⟨"a/b", [⟨1, 0, 0⟩]⟩] : List Listing), 3,
        (["a/bc/1.0.0"] : List Text)) := rfl
  have hlog : (follow recoveringAnswers firstFetches (Session.start, [], [])).bind (fun c =>
      (follow recoveringAnswers secondFetch (c.1.retryMissing, [], [])).map fun d => d.2.1) =
      some [.docsArrived ⟨"a", "b", ⟨1, 0, 0⟩⟩ (Log.oneValue "")] := rfl
  rw [h, Option.map_some, Option.some.injEq] at hend
  rw [h, Option.bind_some] at hlog
  simp only [Prod.mk.injEq] at hend
  obtain ⟨hprogress, hmissing, hrequests, hkeys⟩ := hend
  obtain ⟨⟨u, more, later⟩, hu, hmore⟩ := Option.map_eq_some_iff.mp hlog
  obtain rfl : more = [.docsArrived ⟨"a", "b", ⟨1, 0, 0⟩⟩ (Log.oneValue "")] := hmore
  obtain ⟨hcall, hretry, -, -, hagain⟩ :=
    Proceeds.retryMissing_exact (Proceeds.refl.follow h) Settings.standard
  have hsucceed : ∀ f ∈ Fetch.ofListings s.requests.length s.missing, ∃ n r d,
      f.request = some (n, r) ∧
        .docsArrived r d ∈ ([.docsArrived ⟨"a", "b", ⟨1, 0, 0⟩⟩ (Log.oneValue "")] : Log) := by
    intro f hf
    rw [hmissing, hrequests] at hf
    obtain rfl := List.mem_singleton.mp hf
    exact ⟨3, _, _, rfl, List.mem_singleton_self _⟩
  obtain ⟨hnone, hnothing⟩ := hagain _ u (Proceeds.refl.follow hu) hsucceed rfl
  rw [hmissing] at hcall
  refine ⟨s, log, started, u, _, later, h, hprogress, hmissing, hkeys, hcall, ?_, hu, hnone,
    hnothing⟩
  rw [hretry, hprogress, hmissing]
  rfl

end Session

end DocIndex
