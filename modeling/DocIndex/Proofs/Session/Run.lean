import DocIndex.Proofs.Session.Fetches
import DocIndex.Proofs.State.Log
import DocIndex.Text.Similarity

/-!
Runs of a session. The reducer's steps, the ends of fetches and what callers do are single actions,
and a run takes them in any order. With each session goes what the run has done so far: the events
that the reducer has applied and the listings whose fetches were started.
-/
namespace DocIndex

/-- What is answered to a session from outside. A request is answered at most once, so an answer for
each request number is all that any source can give, also one that answers the same release
differently each time. -/
structure Answers where
  catalog : Except FetchError Catalog
  docs : Nat → Release → Option Docs

namespace Answers

/-- The answers of a source that has a catalog and answers a release always the same. -/
def ofSource (c : Catalog) (docs : Release → Option Docs) : Answers := ⟨.ok c, fun _ => docs⟩

variable (w : Answers)

def catalogEvent : Event :=
  match w.catalog with
  | .ok c => .catalogArrived c
  | .error e => .catalogFailed e

def docsOf (f : Fetch) : Option Docs := f.request.bind fun r => w.docs r.1 r.2

def arrival? (r : Nat × Release) : Option (Release × Docs) :=
  (w.docs r.1 r.2).map fun d => (r.2, d)

def event (f : Fetch) : Event := f.event (w.docsOf f)

def arrivals (ls : List Listing) : List (Release × Docs) :=
  ((Fetch.ofListings 0 ls).filterMap Fetch.request).filterMap w.arrival?

def failures (ls : List Listing) : List Listing :=
  ((Fetch.ofListings 0 ls).filter fun f => (w.docsOf f).isNone).map Fetch.listing

theorem mem_arrivals {ls : List Listing} {r : Release} {d : Docs} :
    (r, d) ∈ w.arrivals ls ↔
      ∃ n, (Listing.releases ls)[n]? = some r ∧ w.docs n r = some d := by
  rw [arrivals, Fetch.filterMap_request_ofListings, List.filterMap_map]
  simp only [List.mem_filterMap, Prod.exists, List.mem_zipIdx_iff_getElem?, Function.comp_apply,
    Prod.swap_prod_mk, arrival?, Option.map_eq_some_iff, Prod.mk.injEq]
  constructor
  · rintro ⟨q, n, hq, d', hd, rfl, rfl⟩
    exact ⟨n, hq, hd⟩
  · rintro ⟨n, hr, hd⟩
    exact ⟨r, n, hr, d, hd, rfl, rfl⟩

/-- A fetch brings documentation or fails, so no listing is lost. -/
theorem length_arrivals_add_failures (ls : List Listing) :
    (w.arrivals ls).length + (w.failures ls).length = ls.length := by
  have hbrought : ∀ f : Fetch,
      (w.docsOf f).isNone = decide ¬(f.request.bind w.arrival?).isSome := by
    intro f
    unfold docsOf arrival?
    cases f.request with
    | none => rfl
    | some r => cases hd : w.docs r.1 r.2 <;> simp [hd]
  have hall := List.length_eq_countP_add_countP (fun f => (f.request.bind w.arrival?).isSome)
    (l := Fetch.ofListings 0 ls)
  rw [arrivals, List.filterMap_filterMap, List.length_filterMap_eq_countP, failures,
    List.length_map, ← List.countP_eq_length_filter]
  simp only [hbrought]
  rw [← hall, Fetch.length_ofListings]

end Answers

inductive Action where
  /-- The reducer takes its next step. -/
  | reduce
  /-- The catalog fetch ends. -/
  | endCatalog
  /-- The open fetch at a place ends. -/
  | endFetch (place : Nat)
  | setQuery (query : Text)
  /-- A caller counts a fetch that it is about to start. -/
  | announce (l : Listing)
  /-- A caller starts the announced fetch at a place. -/
  | launch (place : Nat)
  /-- A caller fetches all that is missing again, with nothing in between. -/
  | retryMissing
  /-- A tool is called, with nothing in between. -/
  | call (g : Settings) (c : ToolCall)

namespace Action

def retries : Action → Bool
  | .announce _ => true
  | .retryMissing => true
  | .call _ (.retry _) => true
  | _ => false

/-- Whether the action works off what is there and brings nothing new. -/
def advances : Action → Bool
  | .reduce => true
  | .endCatalog => true
  | .endFetch _ => true
  | .launch _ => true
  | _ => false

theorem retries_of_advances {a : Action} (h : a.advances = true) : a.retries = false := by
  cases a with
  | reduce => rfl
  | endCatalog => rfl
  | endFetch i => rfl
  | launch i => rfl
  | _ => cases h

end Action

namespace Session

def act (w : Answers) (s : Session) : Action → Option Session
  | .reduce => s.reduce
  | .endCatalog => s.endCatalog w.catalog
  | .endFetch i => s.fetches[i]?.bind fun f => s.endFetch i (w.docsOf f)
  | .setQuery query => some (s.setQuery query)
  | .announce l => some (s.announce l)
  | .launch i => s.launch i
  | .retryMissing => some s.retryMissing
  | .call g c => some (s.call Float Text.resembles g c).1

def appliedBy (s : Session) : Action → Log
  | .reduce =>
    match s.stage with
    | .idle => s.queue.take 1
    | _ => []
  | _ => []

def startedBy (s : Session) : Action → List Listing
  | .reduce =>
    match s.stage with
    | .starting ls => ls.take 1
    | _ => []
  | .launch i => s.announced[i]?.toList
  | .retryMissing => s.missing
  | .call _ c => s.retried c
  | _ => []

/-- The runs whose actions are `allowed`, with the events that the reducer applied and the listings
whose fetches were started. -/
inductive Run (w : Answers) (allowed : Action → Prop) :
    Session → Log → List Listing → Prop where
  | start : Run w allowed Session.start [] []
  | act {s t : Session} {log : Log} {started : List Listing} (a : Action) :
      Run w allowed s log started → allowed a → s.act w a = some t →
      Run w allowed t (log ++ s.appliedBy a) (started ++ s.startedBy a)

def follow (w : Answers) :
    List Action → Session × Log × List Listing → Option (Session × Log × List Listing)
  | [], c => some c
  | a :: actions, (s, log, started) =>
    (s.act w a).bind fun t =>
      follow w actions (t, log ++ s.appliedBy a, started ++ s.startedBy a)

theorem Run.follow {w : Answers} {allowed : Action → Prop} {s t : Session} {log log' : Log}
    {started started' : List Listing} {actions : List Action} (run : Run w allowed s log started)
    (ha : ∀ a ∈ actions, allowed a)
    (h : Session.follow w actions (s, log, started) = some (t, log', started')) :
    Run w allowed t log' started' := by
  induction actions generalizing s log started with
  | nil =>
    obtain ⟨rfl, rfl, rfl⟩ : s = t ∧ log = log' ∧ started = started' := by
      simpa [Session.follow] using h
    exact run
  | cons a actions ih =>
    obtain ⟨u, hu, h⟩ := Option.bind_eq_some_iff.mp h
    have hallowed : allowed a := ha a List.mem_cons_self
    exact ih (.act a run hallowed hu) (fun b hb => ha b (List.mem_cons_of_mem a hb)) h

/-- All that a step can do to a session, by action, with the event applied and the listings
started. -/
inductive Step (w : Answers) (s : Session) : Action → Log → List Listing → Session → Prop where
  | apply (e : Event) (rest : List Event) (hs : s.stage = .idle) (hq : s.queue = e :: rest) :
      Step w s .reduce [e] [] { s with
        state := s.state.after e
        queue := rest
        stage := .counting e (s.state.requested e) }
  | count (e : Event) (ls : List Listing) (hs : s.stage = .counting e ls) :
      Step w s .reduce [] [] { s with
        progress := (s.progress.tally e).issue ls.length
        stage := .starting ls }
  | begin (l : Listing) (ls : List Listing) (hs : s.stage = .starting (l :: ls)) :
      Step w s .reduce [] [l] { s with
        stage := .starting ls
        fetches := s.fetches ++ [Fetch.ofListing s.requests.length l]
        requests := s.requests ++ l.release?.toList }
  | rest (hs : s.stage = .starting []) : Step w s .reduce [] [] { s with stage := .idle }
  | endCatalog (ho : s.catalogOpen = true) :
      Step w s .endCatalog [] [] { s with
        catalogOpen := false
        queue := s.queue ++ [w.catalogEvent] }
  | endFetch (i : Nat) (f : Fetch) (hf : s.fetches[i]? = some f) :
      Step w s (.endFetch i) [] [] { s with
        fetches := s.fetches.eraseIdx i
        queue := s.queue ++ [w.event f] }
  | query (a : Action) (query : Text) (ha : a.advances = false) :
      Step w s a [] [] { s with queue := s.queue ++ [.queryChanged query] }
  | announce (l : Listing) :
      Step w s (.announce l) [] [] { s with
        progress := s.progress.issue 1
        announced := s.announced ++ [l] }
  | launch (i : Nat) (l : Listing) (hl : s.announced[i]? = some l) :
      Step w s (.launch i) [] [l] { s with
        announced := s.announced.eraseIdx i
        fetches := s.fetches ++ [Fetch.ofListing s.requests.length l]
        requests := s.requests ++ l.release?.toList }
  | look (a : Action) (ha : a.advances = false) : Step w s a [] [] s
  | retry (a : Action) (ls : List Listing) (ha : a.retries = true) :
      Step w s a [] ls { s with
        progress := s.progress.issue ls.length
        fetches := s.fetches ++ Fetch.ofListings s.requests.length ls
        requests := s.requests ++ Listing.releases ls }

theorem step_reduce {w : Answers} {s t : Session} (h : s.reduce = some t) :
    Step w s .reduce (s.appliedBy .reduce) (s.startedBy .reduce) t := by
  unfold reduce at h
  split at h
  next hs =>
    split at h
    · cases h
    next e rest hq =>
      obtain rfl := Option.some.inj h
      simpa [appliedBy, startedBy, hs, hq] using Step.apply (w := w) _ _ hs hq
  next e ls hs =>
    obtain rfl := Option.some.inj h
    simpa [appliedBy, startedBy, hs] using Step.count (w := w) _ _ hs
  next hs =>
    obtain rfl := Option.some.inj h
    simpa [appliedBy, startedBy, hs] using Step.rest (w := w) hs
  next l ls hs =>
    obtain rfl := Option.some.inj h
    simpa [appliedBy, startedBy, hs, startFetch_eq] using Step.begin (w := w) _ _ hs

theorem step_call {w : Answers} {s t : Session} {g : Settings} {c : ToolCall}
    (h : s.act w (.call g c) = some t) :
    Step w s (.call g c) (s.appliedBy (.call g c)) (s.startedBy (.call g c)) t := by
  obtain rfl := Option.some.inj h
  rw [call_fst]
  cases c with
  | search query limit => exact .query _ (Text.trim query) rfl
  | status verbose => exact .look _ rfl
  | lookup package name => exact .look _ rfl
  | retry package =>
    simp only [foldl_retry_eq]
    exact .retry _ _ rfl

/-- An action that is possible is one of the steps. -/
theorem step_of_act {w : Answers} {s t : Session} {a : Action} (h : s.act w a = some t) :
    Step w s a (s.appliedBy a) (s.startedBy a) t := by
  cases a with
  | reduce => exact step_reduce h
  | endCatalog =>
    simp only [act, endCatalog] at h
    split at h
    next ho =>
      obtain rfl := Option.some.inj h
      exact .endCatalog ho
    next => cases h
  | endFetch i =>
    simp only [act, endFetch] at h
    obtain ⟨f, hf, h⟩ := Option.bind_eq_some_iff.mp h
    rw [hf] at h
    obtain rfl := Option.some.inj h
    exact .endFetch i f hf
  | setQuery query =>
    obtain rfl := Option.some.inj h
    exact .query _ query rfl
  | announce l =>
    obtain rfl := Option.some.inj h
    exact .announce l
  | launch i =>
    simp only [act, launch] at h
    obtain ⟨l, hl, rfl⟩ := Option.map_eq_some_iff.mp h
    simpa [appliedBy, startedBy, hl, startFetch_eq] using Step.launch (w := w) i l hl
  | retryMissing =>
    obtain rfl := Option.some.inj h
    rw [retryMissing, foldl_retry_eq]
    exact .retry _ _ rfl
  | call g c => exact step_call h

/-- What holds at the start and is kept by every step holds after every run. -/
theorem Run.induct {w : Answers} {allowed : Action → Prop}
    {motive : ∀ {s : Session} {log : Log} {started : List Listing},
      Run w allowed s log started → Prop}
    (start : motive .start)
    (step : ∀ {s t : Session} {log es : Log} {started ls : List Listing} {a : Action}
      (run : Run w allowed s log started) (next : Run w allowed t (log ++ es) (started ++ ls)),
      motive run → allowed a → Step w s a es ls t → motive next)
    {s : Session} {log : Log} {started : List Listing} (run : Run w allowed s log started) :
    motive run := by
  induction run with
  | start => exact start
  | act a run ha h ih => exact step run (.act a run ha h) ih ha (step_of_act h)

end Session

end DocIndex
