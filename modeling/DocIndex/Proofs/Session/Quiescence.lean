import DocIndex.Proofs.Session.Drained
import DocIndex.Proofs.Session.ToolDriven
import Mathlib.Logic.Relation

/-!
Where the reducer comes to when nothing new is sent. What is done to a session meanwhile can be
moved behind the reducer's steps: an event because the queue is kept in order, and a fetch because,
once the index has begun, the reducer starts none itself.
-/
namespace DocIndex

/-- Only what makes the state a listing asks for fetches. -/
theorem State.after_of_requested {s : State} {e : Event} (h : s.requested e ≠ []) :
    ∃ updated, s.after e = .listed updated := by
  cases e with
  | catalogArrived c =>
    cases s with
    | waiting => exact ⟨c.recent, rfl⟩
    | listed updated => exact ⟨c.recent, rfl⟩
    | unavailable e => exact absurd rfl h
    | indexed i => exact absurd rfl h
  | _ => exact absurd rfl h

/-- The index has begun, or it never will. -/
def State.Decided (s : State) : Prop := (∃ i, s = .indexed i) ∨ ∃ e, s = .unavailable e

theorem State.Decided.after {s : State} (h : s.Decided) (e : Event) : (s.after e).Decided := by
  obtain ⟨i, rfl⟩ | ⟨e', rfl⟩ := h
  · cases e with
    | catalogFailed e => exact .inr ⟨e, rfl⟩
    | _ => exact .inl ⟨_, rfl⟩
  · cases e with
    | catalogFailed e => exact .inr ⟨e, rfl⟩
    | _ => exact .inr ⟨e', rfl⟩

theorem State.Decided.requested {s : State} (h : s.Decided) (e : Event) : s.requested e = [] := by
  obtain ⟨i, rfl⟩ | ⟨e', rfl⟩ := h <;> cases e <;> rfl

namespace Session

variable {s t : Session}

inductive Reduction (s : Session) : Session → Prop where
  | apply (e : Event) (rest : List Event) (hs : s.stage = .idle) (hq : s.queue = e :: rest) :
      Reduction s { s with
        state := s.state.after e
        queue := rest
        stage := .counting e (s.state.requested e) }
  | count (e : Event) (ls : List Listing) (hs : s.stage = .counting e ls) :
      Reduction s { s with
        progress := (s.progress.tally e).issue ls.length
        stage := .starting ls }
  | begin (l : Listing) (ls : List Listing) (hs : s.stage = .starting (l :: ls)) :
      Reduction s { s with
        stage := .starting ls
        fetches := s.fetches ++ [Fetch.ofListing s.requests.length l]
        requests := s.requests ++ l.release?.toList }
  | rest (hs : s.stage = .starting []) : Reduction s { s with stage := .idle }

theorem reduction_of_reduce (h : s.reduce = some t) : Reduction s t := by
  unfold reduce at h
  split at h
  next hs =>
    split at h
    · cases h
    next e rest hq =>
      obtain rfl := Option.some.inj h
      exact .apply e rest hs hq
  next e ls hs =>
    obtain rfl := Option.some.inj h
    exact .count e ls hs
  next hs =>
    obtain rfl := Option.some.inj h
    exact .rest hs
  next l ls hs =>
    obtain rfl := Option.some.inj h
    simpa [startFetch_eq] using Reduction.begin l ls hs

/-- The session when the reducer has nothing more to do. -/
def quiesce (s : Session) : Session :=
  match _ : s.reduce with
  | some t => t.quiesce
  | none => s
termination_by s.work
decreasing_by exact work_reduce ‹_›

theorem quiesce_of_reduce (h : s.reduce = some t) : s.quiesce = t.quiesce := by
  rw [quiesce]
  split
  next u hu => rw [Option.some.inj (hu.symm.trans h)]
  next hnone => exact absurd (hnone.symm.trans h) (by simp)

theorem quiesce_of_idle (h : s.reduce = none) : s.quiesce = s := by
  rw [quiesce]
  split
  next u hu => exact absurd (hu.symm.trans h) (by simp)
  next => rfl

/-- What holds once the reducer has nothing more to do, and is carried back over its steps, holds of
every session. -/
theorem quiesce_induct {motive : Session → Prop}
    (idle : ∀ s, s.reduce = none → motive s)
    (step : ∀ s t, s.reduce = some t → motive t → motive s) (s : Session) : motive s := by
  induction hn : s.work using Nat.strong_induction_on generalizing s with
  | _ n ih =>
    cases h : s.reduce with
    | none => exact idle s h
    | some t => exact step s t h (ih _ (hn ▸ work_reduce h) t rfl)

theorem reduce_quiesce (s : Session) : s.quiesce.reduce = none := by
  induction s using quiesce_induct with
  | idle s h => rwa [quiesce_of_idle h]
  | step s t h ih => rwa [quiesce_of_reduce h]

def Reduces : Session → Session → Prop := Relation.ReflTransGen fun s t => s.reduce = some t

theorem Reduces.quiesce_eq (h : Reduces s t) : t.quiesce = s.quiesce := by
  induction h with
  | refl => rfl
  | tail _ hstep ih => rw [← ih, quiesce_of_reduce hstep]

/-- What is sent while the reducer takes a step waits behind it. -/
theorem reduce_send (h : s.reduce = some t) (e : Event) : (s.send e).reduce = some (t.send e) := by
  cases reduction_of_reduce h with
  | apply d rest hs hq => simp [reduce, send, hs, hq]
  | count d ls hs => simp [reduce, send, hs]
  | begin l ls hs => simp [reduce, send, hs, startFetch_eq]
  | rest hs => simp [reduce, send, hs]

theorem quiesce_send (s : Session) (e : Event) :
    (s.send e).quiesce = (s.quiesce.send e).quiesce := by
  induction s using quiesce_induct with
  | idle s hidle => rw [quiesce_of_idle hidle]
  | step s t hr ih => rw [quiesce_of_reduce hr, quiesce_of_reduce (reduce_send hr e), ih]

/-- A count that is made while the reducer takes a step does not touch the step. -/
theorem reduce_announce (h : s.reduce = some t) (l : Listing) :
    (s.announce l).reduce = some (t.announce l) := by
  cases reduction_of_reduce h with
  | apply e rest hs hq => simp [reduce, announce, hs, hq]
  | count e ls hs =>
    simp [reduce, announce, hs, Progress.tally_issue, Progress.issue_issue, Nat.add_comm]
  | begin l ls hs => simp [reduce, announce, hs, startFetch_eq]
  | rest hs => simp [reduce, announce, hs]

/-- Between a count and its fetch the reducer goes on as it would without the count. -/
theorem exists_of_reduces_announce {l : Listing} {u : Session} (hu : Reduces (s.announce l) u) :
    ∃ t, Reduces s t ∧ t.announced = s.announced ∧ u = t.announce l := by
  induction hu with
  | refl => exact ⟨s, .refl, rfl, rfl⟩
  | tail _ hr ih =>
    obtain ⟨t, hst, hannounced, rfl⟩ := ih
    cases ht : t.reduce with
    | none =>
      obtain ⟨hs, hq⟩ := reduce_eq_none_iff.mp ht
      have hidle : (t.announce l).reduce = none := reduce_eq_none_iff.mpr ⟨hs, hq⟩
      rw [hidle] at hr
      cases hr
    | some t' =>
      rw [reduce_announce ht] at hr
      refine ⟨t', hst.tail ht, ?_, (Option.some.inj hr).symm⟩
      rw [← hannounced]
      cases reduction_of_reduce ht <;> rfl

/-- A query is applied after all that was sent before it. -/
theorem quiesce_setQuery (s : Session) (query : Text) :
    (s.setQuery query).quiesce =
      { s.quiesce with state := s.quiesce.state.after (.queryChanged query) } := by
  obtain ⟨hs, hq⟩ := reduce_eq_none_iff.mp s.reduce_quiesce
  rw [setQuery, quiesce_send]
  generalize s.quiesce = u at hs hq
  obtain ⟨state, progress, queue, stage, announced, catalogOpen, fetches, requests⟩ := u
  obtain rfl : stage = .idle := hs
  obtain rfl : queue = [] := hq
  rw [quiesce_of_reduce rfl, quiesce_of_reduce rfl, quiesce_of_reduce rfl]
  exact quiesce_of_idle rfl

/-- A query changes the query of the index, and nothing where there is no index. -/
theorem quiesce_setQuery_cases (s : Session) (query : Text) :
    (s.setQuery query).quiesce = s.quiesce ∨
      ∃ i, s.quiesce.state = .indexed i ∧
        (s.setQuery query).quiesce = { s.quiesce with state := .indexed { i with query } } := by
  rw [quiesce_setQuery]
  cases hs : s.quiesce.state with
  | indexed i => exact .inr ⟨i, rfl, rfl⟩
  | _ =>
    left
    rw [State.after, ← hs]
    simp

/-- A failed catalog stays failed. -/
theorem reduce_unavailable (h : s.reduce = some t) {e : FetchError}
    (hs : s.state = .unavailable e) : ∃ e', t.state = .unavailable e' := by
  cases reduction_of_reduce h with
  | apply d rest =>
    rw [hs]
    cases d with
    | catalogFailed e' => exact ⟨e', rfl⟩
    | _ => exact ⟨e, rfl⟩
  | _ => exact ⟨e, hs⟩

theorem quiesce_unavailable (s : Session) {e : FetchError} (hs : s.state = .unavailable e) :
    ∃ e', s.quiesce.state = .unavailable e' := by
  induction s using quiesce_induct generalizing e with
  | idle s hidle => exact ⟨e, by rw [quiesce_of_idle hidle, hs]⟩
  | step s t hr ih =>
    obtain ⟨e', ht⟩ := reduce_unavailable hr hs
    rw [quiesce_of_reduce hr]
    exact ih ht

/-- Where the catalog has failed in the end, a query has left no trace. -/
theorem quiesce_setQuery_of_unavailable {query : Text} {e : FetchError}
    (h : (s.setQuery query).quiesce.state = .unavailable e) :
    (s.setQuery query).quiesce = s.quiesce := by
  obtain heq | ⟨i, -, hindexed⟩ := quiesce_setQuery_cases s query
  · exact heq
  · rw [hindexed] at h
    cases h

/-- The sessions that can come about, with whatever answers, calls and events from outside. -/
inductive Reachable : Session → Prop where
  | start : Reachable Session.start
  | reduce {s t : Session} (hs : Reachable s) (h : s.reduce = some t) : Reachable t
  | endCatalog {s t : Session} (hs : Reachable s) (result : Except FetchError Catalog)
      (h : s.endCatalog result = some t) : Reachable t
  | endFetch {s t : Session} (hs : Reachable s) (i : Nat) (docs : Option Docs)
      (h : s.endFetch i docs = some t) : Reachable t
  | send {s : Session} (hs : Reachable s) (e : Event) : Reachable (s.send e)
  | announce {s : Session} (hs : Reachable s) (l : Listing) : Reachable (s.announce l)
  | launch {s t : Session} (hs : Reachable s) (i : Nat) (h : s.launch i = some t) : Reachable t

theorem launch_announce (s : Session) (l : Listing) :
    (s.announce l).launch s.announced.length = some (s.retry l) := by
  have herase : (s.announced ++ [l]).eraseIdx s.announced.length = s.announced := by
    rw [List.eraseIdx_append_of_length_le (Nat.le_refl _)]
    simp
  simp [launch, announce, retry, herase]

theorem Reachable.foldl_retry (h : Reachable s) (ls : List Listing) :
    Reachable (ls.foldl retry s) := by
  induction ls generalizing s with
  | nil => exact h
  | cons l ls ih => exact ih ((h.announce l).launch _ (launch_announce s l))

theorem Reachable.call (h : Reachable s) (g : Settings) (c : ToolCall) :
    Reachable (s.call Float Text.resembles g c).1 := by
  rw [call_fst]
  cases c with
  | search query limit => exact h.send _
  | _ => exact h.foldl_retry _

/-- What the runs of a session come to can come about. -/
theorem Run.reachable {w : Answers} {allowed : Action → Prop} {log : Log}
    {started : List Listing} (run : Run w allowed s log started) : Reachable s := by
  induction run with
  | start => exact .start
  | @act s t _ _ a _ _ h ih =>
    cases a with
    | reduce => exact ih.reduce h
    | endCatalog => exact ih.endCatalog _ h
    | endFetch i =>
      obtain ⟨f, -, h⟩ := Option.bind_eq_some_iff.mp h
      exact ih.endFetch i _ h
    | launch i => exact ih.launch i h
    | setQuery query =>
      obtain rfl := Option.some.inj h
      exact ih.send _
    | announce l =>
      obtain rfl := Option.some.inj h
      exact ih.announce l
    | retryMissing =>
      obtain rfl := Option.some.inj h
      exact ih.foldl_retry _
    | call g c =>
      obtain rfl := Option.some.inj h
      exact ih.call g c

/-- The reducer is about to start fetches only between the catalog and the next event. -/
theorem Reachable.asked (h : Reachable s) :
    s.stage.asked ≠ [] → ∃ updated, s.state = .listed updated := by
  induction h with
  | start => exact fun hne => absurd rfl hne
  | reduce _ h ih =>
    cases reduction_of_reduce h with
    | apply e rest hs hq => exact State.after_of_requested
    | count e ls hs => simpa [hs, Stage.asked] using ih
    | begin l ls hs => exact fun _ => ih (by simp [hs, Stage.asked])
    | rest hs => exact fun hne => absurd rfl hne
  | endCatalog _ result h ih =>
    unfold Session.endCatalog at h
    split at h
    · obtain rfl := Option.some.inj h
      exact ih
    · cases h
  | endFetch _ i docs h ih =>
    obtain ⟨f, -, rfl⟩ := Option.map_eq_some_iff.mp h
    exact ih
  | send _ e ih => exact ih
  | announce _ l ih => exact ih
  | launch _ i h ih =>
    obtain ⟨l, -, rfl⟩ := Option.map_eq_some_iff.mp h
    rw [startFetch_eq]
    exact ih

/-- The reducer will start no fetch any more. -/
structure Calm (s : Session) : Prop where
  decided : s.state.Decided
  asked : s.stage.asked = []

theorem Reachable.calm (h : Reachable s) (hs : s.state.Decided) : Calm s where
  decided := hs
  asked := by
    by_contra hne
    obtain ⟨updated, hlisted⟩ := h.asked hne
    rw [hlisted] at hs
    obtain ⟨i, hi⟩ | ⟨e, he⟩ := hs
    · cases hi
    · cases he

theorem Reachable.calm_of_index (h : Reachable s) {i : Index} (hs : s.state.index? = some i) :
    Calm s := by
  refine h.calm (.inl ⟨i, ?_⟩)
  unfold State.index? at hs
  split at hs
  next j hj => rw [hj, Option.some.inj hs]
  next => cases hs

def withFetches (s : Session) (n : Nat) (fetches : List Fetch) (requests : List Release) :
    Session :=
  { s with progress := s.progress.issue n, fetches, requests }

theorem foldl_retry_eq_withFetches (s : Session) (ls : List Listing) :
    ls.foldl retry s = s.withFetches ls.length
      (s.fetches ++ Fetch.ofListings s.requests.length ls)
      (s.requests ++ Listing.releases ls) := foldl_retry_eq s ls

/-- A step of the reducer touches no fetch, and fetches do not touch the step. -/
theorem Calm.reduce (h : Calm s) (hr : s.reduce = some t) :
    Calm t ∧ t.fetches = s.fetches ∧ t.requests = s.requests ∧
      ∀ n fetches requests, (s.withFetches n fetches requests).reduce =
        some (t.withFetches n fetches requests) := by
  obtain ⟨hdecided, hasked⟩ := h
  cases reduction_of_reduce hr with
  | apply e rest hs hq =>
    refine ⟨⟨hdecided.after e, hdecided.requested e⟩, rfl, rfl, fun _ _ _ => ?_⟩
    simp [Session.reduce, withFetches, hs, hq]
  | count e ls hs =>
    rw [hs] at hasked
    refine ⟨⟨hdecided, hasked⟩, rfl, rfl, fun n _ _ => ?_⟩
    simp [Session.reduce, withFetches, hs, Progress.tally_issue, Progress.issue_issue,
      Nat.add_comm]
  | begin l ls hs =>
    rw [hs] at hasked
    cases hasked
  | rest hs =>
    refine ⟨⟨hdecided, rfl⟩, rfl, rfl, fun _ _ _ => ?_⟩
    simp [Session.reduce, withFetches, hs]

theorem Calm.quiesce_withFetches (h : Calm s) (n : Nat) (fetches : List Fetch)
    (requests : List Release) :
    (s.withFetches n fetches requests).quiesce = s.quiesce.withFetches n fetches requests := by
  induction s using quiesce_induct with
  | idle s hidle =>
    obtain ⟨hs, hq⟩ := reduce_eq_none_iff.mp hidle
    rw [quiesce_of_idle hidle]
    exact quiesce_of_idle (reduce_eq_none_iff.mpr ⟨hs, hq⟩)
  | step s t hr ih =>
    obtain ⟨ht, -, -, hcommutes⟩ := h.reduce hr
    rw [quiesce_of_reduce hr, quiesce_of_reduce (hcommutes n fetches requests), ih ht]

theorem Calm.quiesce (h : Calm s) :
    s.quiesce.fetches = s.fetches ∧ s.quiesce.requests = s.requests := by
  induction s using quiesce_induct with
  | idle s hidle =>
    rw [quiesce_of_idle hidle]
    exact ⟨rfl, rfl⟩
  | step s t hr ih =>
    obtain ⟨ht, hf, hq, -⟩ := h.reduce hr
    rw [quiesce_of_reduce hr, ← hf, ← hq]
    exact ih ht

/-- It makes no difference whether listings are fetched again before the reducer goes on or after. -/
theorem Calm.quiesce_retry (h : Calm s) (ls : List Listing) :
    (ls.foldl retry s).quiesce = ls.foldl retry s.quiesce := by
  obtain ⟨hf, hq⟩ := h.quiesce
  rw [foldl_retry_eq_withFetches, h.quiesce_withFetches, foldl_retry_eq_withFetches, hf, hq]

theorem Calm.reduces (h : Calm s) (hst : Reduces s t) : Calm t := by
  induction hst with
  | refl => exact h
  | tail _ hr ih => exact (ih.reduce hr).1

theorem Calm.retry (h : Calm s) (l : Listing) : Calm (s.retry l) := by
  rw [Session.retry, startFetch_eq]
  exact ⟨h.decided, h.asked⟩

end Session

end DocIndex
