import DocIndex.Progress

/-!
A session: one reducer that applies events in the order of a queue, and fetches that are open side
by side and send one event each when they end.

The reducer takes three steps for an event: it changes the state, it publishes the progress, and it
starts the fetches that the event asks for, one by one. Each step is a function of its own, so other
things may happen between two of them.
-/
namespace DocIndex

/-- A fetch that was started. If its listing addresses a release it has made the request with this
number and waits for the answer; otherwise it can only fail. -/
structure Fetch where
  listing : Listing
  request : Option (Nat × Release)

def Fetch.event (f : Fetch) : Option Docs → Event
  | some d =>
    match f.request with
    | some (_, r) => .docsArrived r d
    | none => .docsFailed f.listing
  | none => .docsFailed f.listing

inductive Stage where
  | idle
  /-- The state is changed; the event is to be counted with the fetches it asks for. -/
  | counting (e : Event) (listings : List Listing)
  /-- The progress is published; the fetches of these listings are to be started. -/
  | starting (listings : List Listing)

structure Session where
  state : State
  progress : Progress
  /-- The events that are not applied yet, the oldest first. -/
  queue : List Event
  stage : Stage
  /-- The listings of fetches that callers have counted and not yet started. -/
  announced : List Listing
  catalogOpen : Bool
  fetches : List Fetch
  /-- The releases asked for so far; a request's number is its place here. -/
  requests : List Release

namespace Session

def start : Session := ⟨.waiting, Progress.start, [], .idle, [], true, [], []⟩

def send (s : Session) (e : Event) : Session := { s with queue := s.queue ++ [e] }

def setQuery (s : Session) (query : Text) : Session := s.send (.queryChanged query)

def startFetch (s : Session) (l : Listing) : Session :=
  match Release.ofListing l with
  | .ok r =>
    { s with
      fetches := s.fetches ++ [⟨l, some (s.requests.length, r)⟩]
      requests := s.requests ++ [r] }
  | .error _ => { s with fetches := s.fetches ++ [⟨l, none⟩] }

def reduce (s : Session) : Option Session :=
  match s.stage with
  | .idle =>
    match s.queue with
    | [] => none
    | e :: rest => some { s with
        state := s.state.after e
        queue := rest
        stage := .counting e (s.state.requested e) }
  | .counting e ls => some { s with
      progress := (s.progress.tally e).issue ls.length
      stage := .starting ls }
  | .starting [] => some { s with stage := .idle }
  | .starting (l :: ls) => some ({ s with stage := .starting ls }.startFetch l)

/-- A caller counts a fetch that it is about to start. -/
def announce (s : Session) (l : Listing) : Session :=
  { s with progress := s.progress.issue 1, announced := s.announced ++ [l] }

def launch (s : Session) (i : Nat) : Option Session :=
  s.announced[i]?.map fun l => { s with announced := s.announced.eraseIdx i }.startFetch l

def endCatalog (s : Session) (result : Except FetchError Catalog) : Option Session :=
  if s.catalogOpen then
    some ({ s with catalogOpen := false }.send (match result with
      | .ok c => .catalogArrived c
      | .error e => .catalogFailed e))
  else none

def endFetch (s : Session) (i : Nat) (docs : Option Docs) : Option Session :=
  s.fetches[i]?.map fun f => { s with fetches := s.fetches.eraseIdx i }.send (f.event docs)

def fetchOfRequest? (s : Session) (n : Nat) : Option Nat :=
  s.fetches.findIdx? fun f => f.request.any fun r => r.1 == n

def unaddressedFetch? (s : Session) : Option Nat :=
  s.fetches.findIdx? fun f => f.request.isNone

def answer (s : Session) (n : Nat) (docs : Option Docs) : Option Session :=
  (s.fetchOfRequest? n).bind fun i => s.endFetch i docs

/-- Fetches the documentation of a listing again, even while it is being fetched. -/
def retry (s : Session) (l : Listing) : Session :=
  { s with progress := s.progress.issue 1 }.startFetch l

def missing (s : Session) : List Listing := (s.state.index?.map Index.missing).getD []

def retryMissing (s : Session) : Session := s.missing.foldl retry s

end Session

end DocIndex
