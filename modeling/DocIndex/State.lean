import DocIndex.Docs.Exports
import DocIndex.FetchError
import DocIndex.IndexedValue
import DocIndex.Release

/-!
What a session knows, and how the results of fetches change it.

Results arrive in any order. The index only grows: values and failures are appended, and the
documentation of a release that arrives again replaces the earlier one. A failed catalog is final.
-/
namespace DocIndex

structure Holding where
  release : Release
  docs : Docs
  exports : Exports

def Holding.of (r : Release) (d : Docs) : Holding := ⟨r, d, Exports.ofDocs d⟩

structure Index where
  /-- The loaded releases by identifier. -/
  holdings : TextMap Holding
  /-- The values that can be found, in order of arrival. -/
  values : List IndexedValue
  /-- The listings whose documentation could not be had, in order of arrival. -/
  failed : List Listing
  query : Text

namespace Index

def empty : Index := ⟨TextMap.empty, [], [], []⟩

def addDocs (i : Index) (r : Release) (d : Docs) : Index :=
  { i with
    holdings := i.holdings.insert r.identifier (Holding.of r d)
    values := i.values ++ d.values r.identifier }

def addFailure (i : Index) (l : Listing) : Index := { i with failed := i.failed ++ [l] }

def holdsPackage (i : Index) (identifier : Text) : Bool :=
  i.holdings.keys.any fun key => (identifier ++ ['/']).isPrefixOf key

/-- The first failed listing of each identifier of which no release is held. -/
def missing (i : Index) : List Listing :=
  (i.failed.filter fun l => !i.holdsPackage l.identifier).eraseDupsBy fun l m =>
    l.identifier == m.identifier

end Index

inductive State where
  /-- The catalog has not arrived. -/
  | waiting
  /-- The catalog could not be had. -/
  | unavailable (e : FetchError)
  /-- The catalog has arrived, and these are the listings of its updated packages. -/
  | listed (updated : List Listing)
  /-- At least one fetch of documentation has ended. -/
  | indexed (i : Index)

inductive Event where
  | catalogArrived (c : Catalog)
  | catalogFailed (e : FetchError)
  | docsArrived (r : Release) (d : Docs)
  | docsFailed (l : Listing)
  | queryChanged (query : Text)

namespace State

def label : State → Text
  | .waiting => "loading"
  | .unavailable _ => "failed"
  | .listed _ => "catalog"
  | .indexed _ => "docs"

def index? : State → Option Index
  | .indexed i => some i
  | _ => none

def values (s : State) : List IndexedValue := (s.index?.map Index.values).getD []

/-- Changes the index, which starts empty with the first result; a failed catalog keeps it from
starting. -/
def changeIndex (s : State) (f : Index → Index) : State :=
  match s with
  | .unavailable e => .unavailable e
  | .indexed i => .indexed (f i)
  | .waiting => .indexed (f Index.empty)
  | .listed _ => .indexed (f Index.empty)

def after (s : State) : Event → State
  | .catalogFailed e => .unavailable e
  | .catalogArrived c =>
    match s with
    | .unavailable e => .unavailable e
    | .indexed i => .indexed i
    | _ => .listed c.recent
  | .docsArrived r d => s.changeIndex (·.addDocs r d)
  | .docsFailed l => s.changeIndex (·.addFailure l)
  | .queryChanged query =>
    match s with
    | .indexed i => .indexed { i with query }
    | s => s

/-- The listings whose documentation an event asks for: those of the updated packages, as long as no
result and no failure came before the catalog. -/
def requested (s : State) : Event → List Listing
  | .catalogArrived c =>
    match s with
    | .unavailable _ => []
    | .indexed _ => []
    | _ => c.recent
  | _ => []

def afterAll (s : State) (events : List Event) : State := events.foldl after s

end State

end DocIndex
