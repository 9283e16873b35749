import DocIndex.Session.Basic
import DocIndex.Tool.Call

/-!
What starting fetches does to a session. However fetches are started, one by one or by a call that
repeats many, they are appended to the open ones in order and number their requests on.
-/
namespace DocIndex

def Listing.release? (l : Listing) : Option Release := (Release.ofListing l).toOption

def Listing.releases (ls : List Listing) : List Release := ls.filterMap release?

theorem Listing.release?_eq_some_iff {l : Listing} {r : Release} :
    l.release? = some r ↔ Release.ofListing l = .ok r := by
  cases h : Release.ofListing l <;> simp [release?, h, Except.toOption]

theorem Listing.mem_releases_iff {ls : List Listing} {r : Release} :
    r ∈ releases ls ↔ ∃ l ∈ ls, Release.ofListing l = .ok r := by
  simp only [releases, List.mem_filterMap, release?_eq_some_iff]

@[simp] theorem Listing.releases_append (ls ms : List Listing) :
    releases (ls ++ ms) = releases ls ++ releases ms := List.filterMap_append

@[simp] theorem Listing.releases_singleton (l : Listing) : releases [l] = l.release?.toList := by
  cases h : l.release? <;> simp [releases, h]

namespace Fetch

def ofListing (n : Nat) (l : Listing) : Fetch := ⟨l, l.release?.map fun r => (n, r)⟩

def ofListings : Nat → List Listing → List Fetch
  | _, [] => []
  | n, l :: ls => ofListing n l :: ofListings (n + l.release?.toList.length) ls

@[simp] theorem ofListings_singleton (n : Nat) (l : Listing) :
    ofListings n [l] = [ofListing n l] := rfl

theorem ofListings_append (n : Nat) (ls ms : List Listing) :
    ofListings n (ls ++ ms) =
      ofListings n ls ++ ofListings (n + (Listing.releases ls).length) ms := by
  induction ls generalizing n with
  | nil => simp [ofListings, Listing.releases]
  | cons l ls ih =>
    have hlen : (Listing.releases (l :: ls)).length =
        l.release?.toList.length + (Listing.releases ls).length := by
      cases h : l.release? <;> simp [Listing.releases, h, Nat.add_comm]
    simp [ofListings, ih, hlen, Nat.add_assoc]

@[simp] theorem length_ofListings (n : Nat) (ls : List Listing) :
    (ofListings n ls).length = ls.length := by
  induction ls generalizing n with
  | nil => rfl
  | cons l ls ih => simp [ofListings, ih]

/-- Requests are numbered in the order of their listings. -/
theorem filterMap_request_ofListings (n : Nat) (ls : List Listing) :
    (ofListings n ls).filterMap Fetch.request =
      ((Listing.releases ls).zipIdx n).map Prod.swap := by
  induction ls generalizing n with
  | nil => rfl
  | cons l ls ih =>
    cases h : l.release? with
    | none => simp [ofListings, ofListing, Listing.releases, h, ih]
    | some r => simp [ofListings, ofListing, Listing.releases, h, ih]

end Fetch

namespace Session

theorem startFetch_eq (s : Session) (l : Listing) :
    s.startFetch l = { s with
      fetches := s.fetches ++ [Fetch.ofListing s.requests.length l]
      requests := s.requests ++ l.release?.toList } := by
  unfold startFetch Fetch.ofListing Listing.release?
  cases Release.ofListing l <;> simp [Except.toOption]

/-- Listings are fetched again one after the other. -/
theorem foldl_retry_eq (s : Session) (ls : List Listing) :
    ls.foldl retry s = { s with
      progress := s.progress.issue ls.length
      fetches := s.fetches ++ Fetch.ofListings s.requests.length ls
      requests := s.requests ++ Listing.releases ls } := by
  induction ls generalizing s with
  | nil => simp [Progress.issue, Fetch.ofListings, Listing.releases]
  | cons l ls ih =>
    rw [List.foldl_cons, ih, retry, startFetch_eq]
    cases h : l.release? <;>
      simp [Progress.issue, Fetch.ofListings, Listing.releases, h, Nat.add_comm, Nat.add_left_comm]

def retried (s : Session) : ToolCall → List Listing
  | .retry none => s.missing
  | .retry (some package) =>
    (s.state.index?.bind fun i =>
      i.failed.find? fun l => l.identifier = Text.trim package).toList
  | _ => []

/-- A search sends its query, any other call only fetches listings again. -/
theorem call_fst (σ : Type) [Scale σ] (resembles : Text → Text → Bool) (g : Settings)
    (s : Session) (c : ToolCall) :
    (s.call σ resembles g c).1 =
      match c with
      | .search query _ => s.setQuery (Text.trim query)
      | c => (s.retried c).foldl retry s := by
  cases c with
  | search query limit => rfl
  | status verbose => rfl
  | lookup package name => rfl
  | retry package =>
    cases package with
    | none =>
      cases h : s.missing with
      | nil => simp [call, callRetry, retried, h]
      | cons l ls => simp [call, callRetry, retried, retryMissing, h]
    | some package =>
      cases hi : s.state.index? with
      | none => simp [call, callRetry, retried, hi]
      | some i =>
        cases hf : i.failed.find? fun l => l.identifier = Text.trim package with
        | none => simp [call, callRetry, retried, hi, hf]
        | some l => simp [call, callRetry, retried, hi, hf]

end Session

end DocIndex
