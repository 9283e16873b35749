import DocIndex.Proofs.Release
import DocIndex.Proofs.Text.TextMap
import DocIndex.State
import Mathlib.Data.List.TakeWhile

/-!
The state as a function of the log: what a run of events leaves can be read off the events, in
whatever order they came.
-/
namespace DocIndex

namespace Event

def catalog? : Event → Option Catalog
  | .catalogArrived c => some c
  | _ => none

def catalogError? : Event → Option FetchError
  | .catalogFailed e => some e
  | _ => none

def docs? : Event → Option (Release × Docs)
  | .docsArrived r d => some (r, d)
  | _ => none

def failure? : Event → Option Listing
  | .docsFailed l => some l
  | _ => none

def query? : Event → Option Text
  | .queryChanged query => some query
  | _ => none

def isResult : Event → Bool
  | .docsArrived _ _ => true
  | .docsFailed _ => true
  | _ => false

def isCatalog : Event → Bool
  | .catalogArrived _ => true
  | .catalogFailed _ => true
  | _ => false

theorem docs?_eq_none {e : Event} (h : e.isResult = false) : e.docs? = none := by
  cases e with
  | docsArrived r d => cases h
  | _ => rfl

theorem failure?_eq_none {e : Event} (h : e.isResult = false) : e.failure? = none := by
  cases e with
  | docsFailed l => cases h
  | _ => rfl

theorem catalog?_eq_none {e : Event} (h : e.isCatalog = false) : e.catalog? = none := by
  cases e with
  | catalogArrived c => cases h
  | _ => rfl

theorem catalogError?_eq_none {e : Event} (h : e.isCatalog = false) : e.catalogError? = none := by
  cases e with
  | catalogFailed e => cases h
  | _ => rfl

theorem query?_eq_none {e : Event} (h : e.isResult = true) : e.query? = none := by
  cases e with
  | queryChanged query => cases h
  | _ => rfl

end Event

/-- What has arrived, which is nothing before the first result. -/
def State.contents (s : State) : Index := s.index?.getD Index.empty

abbrev Log := List Event

namespace Log

def catalogs (log : Log) : List Catalog := log.filterMap Event.catalog?

def catalogErrors (log : Log) : List FetchError := log.filterMap Event.catalogError?

def arrivals (log : Log) : List (Release × Docs) := log.filterMap Event.docs?

def failures (log : Log) : List Listing := log.filterMap Event.failure?

def hasResult (log : Log) : Bool := log.any Event.isResult

def catalogEvents (log : Log) : Log := log.filter Event.isCatalog

def results (log : Log) : Log := log.filter Event.isResult

/-- The queries that count: those from the first result on. -/
def queries (log : Log) : List Text :=
  (log.dropWhile fun e => !e.isResult).filterMap Event.query?

def index (log : Log) : Index where
  holdings := TextMap.ofList (log.arrivals.map fun a => (a.1.identifier, Holding.of a.1 a.2))
  values := log.arrivals.flatMap fun a => a.2.values a.1.identifier
  failed := log.failures
  query := log.queries.getLast?.getD []

/-- Where a session stands after the events. A failed catalog outweighs all results, and a result
outweighs the catalog. -/
def state (log : Log) : State :=
  match log.catalogErrors.getLast? with
  | some e => .unavailable e
  | none =>
    if log.hasResult then .indexed log.index
    else
      match log.catalogs.getLast? with
      | some c => .listed c.recent
      | none => .waiting

@[simp] theorem catalogEvents_append (log more : Log) :
    catalogEvents (log ++ more) = log.catalogEvents ++ catalogEvents more :=
  List.filter_append _ _

theorem catalogEvents_singleton (e : Event) :
    catalogEvents [e] = if e.isCatalog then [e] else [] := by
  cases e <;> rfl

@[simp] theorem results_append (log more : Log) :
    results (log ++ more) = log.results ++ results more := List.filter_append _ _

theorem results_singleton (e : Event) : results [e] = if e.isResult then [e] else [] := by
  cases e <;> rfl

theorem results_eq_nil_iff (log : Log) : log.results = [] ↔ log.hasResult = false := by
  rw [results, List.filter_eq_nil_iff, hasResult, List.any_eq_false]

/-- What only events of one kind tell can be read off the events of that kind. -/
theorem filterMap_filter {α : Type} {kind : Event → Bool} {f : Event → Option α}
    (hf : ∀ e : Event, kind e = false → f e = none) (log : Log) :
    (log.filter kind).filterMap f = log.filterMap f := by
  rw [List.filterMap_filter]
  congr 1
  funext e
  cases he : kind e with
  | true => simp
  | false => simp [hf e he]

theorem catalogs_eq (log : Log) : log.catalogs = log.catalogEvents.filterMap Event.catalog? :=
  (filterMap_filter (fun _ => Event.catalog?_eq_none) log).symm

theorem catalogErrors_eq (log : Log) :
    log.catalogErrors = log.catalogEvents.filterMap Event.catalogError? :=
  (filterMap_filter (fun _ => Event.catalogError?_eq_none) log).symm

theorem arrivals_eq (log : Log) : log.arrivals = log.results.filterMap Event.docs? :=
  (filterMap_filter (fun _ => Event.docs?_eq_none) log).symm

theorem failures_eq (log : Log) : log.failures = log.results.filterMap Event.failure? :=
  (filterMap_filter (fun _ => Event.failure?_eq_none) log).symm

@[simp] theorem hasResult_concat (log : Log) (e : Event) :
    hasResult (log ++ [e]) = (log.hasResult || e.isResult) := by
  simp [hasResult]

@[simp] theorem catalogErrors_concat (log : Log) (e : Event) :
    catalogErrors (log ++ [e]) = log.catalogErrors ++ e.catalogError?.toList := by
  cases e <;> simp [catalogErrors, List.filterMap_append, Event.catalogError?]

@[simp] theorem catalogs_concat (log : Log) (e : Event) :
    catalogs (log ++ [e]) = log.catalogs ++ e.catalog?.toList := by
  cases e <;> simp [catalogs, List.filterMap_append, Event.catalog?]

@[simp] theorem arrivals_concat (log : Log) (e : Event) :
    arrivals (log ++ [e]) = log.arrivals ++ e.docs?.toList := by
  cases e <;> simp [arrivals, List.filterMap_append, Event.docs?]

@[simp] theorem failures_concat (log : Log) (e : Event) :
    failures (log ++ [e]) = log.failures ++ e.failure?.toList := by
  cases e <;> simp [failures, List.filterMap_append, Event.failure?]

theorem dropWhile_eq_nil_iff (log : Log) :
    (log.dropWhile fun e => !e.isResult) = [] ↔ log.hasResult = false := by
  rw [hasResult, List.any_eq_false]
  simp [List.dropWhile_eq_nil_iff]

/-- A query counts once a result has come before it. -/
theorem queries_concat (log : Log) (e : Event) :
    queries (log ++ [e]) = if log.hasResult then log.queries ++ e.query?.toList else [] := by
  unfold queries
  simp only [List.dropWhile_append, List.isEmpty_iff, dropWhile_eq_nil_iff]
  cases log.hasResult with
  | true => cases e <;> simp [List.filterMap_append, Event.query?]
  | false => cases e <;> simp [Event.isResult, Event.query?]

/-- Before the first result nothing is there. -/
theorem index_of_not_hasResult {log : Log} (h : log.hasResult = false) :
    log.index = Index.empty := by
  have hd := (dropWhile_eq_nil_iff log).mpr h
  have hr := (results_eq_nil_iff log).mpr h
  have ha : log.arrivals = [] := by rw [arrivals_eq, hr, List.filterMap_nil]
  have hf : log.failures = [] := by rw [failures_eq, hr, List.filterMap_nil]
  simp [index, queries, ha, hf, hd, TextMap.ofList, Index.empty]

/-- A result is no query, and before it no query counts. -/
theorem queries_concat_of_isResult (log : Log) {e : Event} (he : e.isResult = true) :
    queries (log ++ [e]) = log.queries := by
  rw [queries_concat, Event.query?_eq_none he]
  cases h : log.hasResult with
  | true => simp
  | false => simp [queries, (dropWhile_eq_nil_iff log).mpr h]

theorem index_docsArrived (log : Log) (r : Release) (d : Docs) :
    index (log ++ [.docsArrived r d]) = log.index.addDocs r d := by
  have hq : queries (log ++ [.docsArrived r d]) = log.queries := queries_concat_of_isResult log rfl
  simp [index, hq, Event.docs?, Event.failure?, TextMap.ofList_concat, Index.addDocs]

theorem index_docsFailed (log : Log) (l : Listing) :
    index (log ++ [.docsFailed l]) = log.index.addFailure l := by
  have hq : queries (log ++ [.docsFailed l]) = log.queries := queries_concat_of_isResult log rfl
  simp [index, hq, Event.docs?, Event.failure?, Index.addFailure]

theorem index_queryChanged {log : Log} (h : log.hasResult = true) (query : Text) :
    index (log ++ [.queryChanged query]) = { log.index with query } := by
  simp [index, queries_concat, h, Event.query?, Event.docs?, Event.failure?]

theorem index_catalogArrived {log : Log} (h : log.hasResult = true) (c : Catalog) :
    index (log ++ [.catalogArrived c]) = log.index := by
  simp [index, queries_concat, h, Event.query?, Event.docs?, Event.failure?]

/-- A result changes the index, or starts it, unless the catalog has failed. -/
theorem changeIndex_state (log : Log) (f : Index → Index) :
    log.state.changeIndex f =
      match log.catalogErrors.getLast? with
      | some e => .unavailable e
      | none => .indexed (f log.index) := by
  unfold state
  cases log.catalogErrors.getLast? with
  | some e => rfl
  | none =>
    cases h : log.hasResult with
    | true => rfl
    | false =>
      rw [index_of_not_hasResult h]
      cases log.catalogs.getLast? <;> rfl

theorem contents_state {log : Log} (h : log.catalogErrors = []) :
    log.state.contents = log.index := by
  unfold state
  rw [h, List.getLast?_nil]
  cases hr : log.hasResult with
  | true => rfl
  | false =>
    rw [index_of_not_hasResult hr]
    cases log.catalogs.getLast? <;> rfl

/-- One more event in the log is one more step of the state. -/
theorem state_concat (log : Log) (e : Event) : state (log ++ [e]) = log.state.after e := by
  cases e with
  | catalogFailed e => simp [state, State.after, Event.catalogError?]
  | catalogArrived c =>
    unfold state
    simp only [catalogErrors_concat, hasResult_concat, catalogs_concat, Event.catalogError?,
      Event.isResult, Event.catalog?, Option.toList, List.append_nil, Bool.or_false,
      List.getLast?_concat]
    cases log.catalogErrors.getLast? with
    | some e => rfl
    | none =>
      cases h : log.hasResult with
      | true => simp [State.after, index_catalogArrived h]
      | false => cases log.catalogs.getLast? <;> rfl
  | docsArrived r d =>
    rw [State.after, changeIndex_state, ← index_docsArrived]
    simp [state, Event.catalogError?, Event.isResult]
  | docsFailed l =>
    rw [State.after, changeIndex_state, ← index_docsFailed]
    simp [state, Event.catalogError?, Event.isResult]
  | queryChanged query =>
    unfold state
    simp only [catalogErrors_concat, hasResult_concat, catalogs_concat, Event.catalogError?,
      Event.isResult, Event.catalog?, Option.toList, List.append_nil, Bool.or_false]
    cases log.catalogErrors.getLast? with
    | some e => rfl
    | none =>
      cases h : log.hasResult with
      | true => simp [State.after, index_queryChanged h]
      | false => cases log.catalogs.getLast? <;> rfl

/-- The state after a run of events can be read off the events. -/
theorem afterAll_waiting (log : Log) : State.waiting.afterAll log = log.state := by
  induction log using List.reverseRecOn with
  | nil => rfl
  | append_singleton log e ih =>
    rw [state_concat, ← ih]
    simp [State.afterAll]

/-- Only a catalog asks for fetches, and only as long as no catalog has failed and no fetch has
ended. -/
theorem requested_state (log : Log) (e : Event) :
    log.state.requested e =
      if log.catalogErrors = [] ∧ log.hasResult = false then
        (e.catalog?.map Catalog.recent).getD []
      else [] := by
  cases e with
  | catalogArrived c =>
    unfold state
    cases he : log.catalogErrors.getLast? with
    | some e =>
      have hne : log.catalogErrors ≠ [] := by
        intro h
        simp [h] at he
      simp [hne, State.requested]
    | none =>
      rw [List.getLast?_eq_none_iff] at he
      cases hr : log.hasResult with
      | true => simp [State.requested]
      | false => cases log.catalogs.getLast? <;> simp [he, State.requested, Event.catalog?]
  | _ => simp [State.requested, Event.catalog?]

/-- A release is held with the documentation that arrived last for its identifier. -/
theorem get?_holdings (log : Log) (key : Text) :
    log.index.holdings.get? key =
      (log.arrivals.filter fun a => a.1.identifier = key).getLast?.map fun a =>
        Holding.of a.1 a.2 :=
  TextMap.get?_ofList_map

theorem mem_keys_holdings (log : Log) (key : Text) :
    key ∈ log.index.holdings.keys ↔ ∃ a ∈ log.arrivals, a.1.identifier = key :=
  TextMap.mem_keys_ofList_map

example :
    State.waiting.afterAll [.catalogArrived
      ⟨[⟨"a/b", []⟩, ⟨"c/d", []⟩, ⟨"e/f", []⟩], ["e/f", "x/y", "a/b"]⟩] =
      .listed [⟨"a/b", []⟩, ⟨"e/f", []⟩] := by
  rfl

end Log

end DocIndex
