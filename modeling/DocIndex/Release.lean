import DocIndex.Name
import DocIndex.Version

/-!
Catalog listings, and the releases they address on a package site.
-/
namespace DocIndex

/-- What a catalog lists of one package: its identifier, by convention `user/project`, and its
versions, the newest first. -/
structure Listing where
  identifier : Text
  versions : List Version
  deriving DecidableEq, Repr

/-- Reads a listing. A version that cannot be read is left out. -/
def Listing.ofJson? (j : Json) : Option Listing := do
  match ← Json.record? [["name"], ["versions"]] j with
  | [identifier, versions] =>
    let identifier ← Json.requiredText? identifier
    let versions ← versions.bind (Json.list? Json.text?)
    return ⟨identifier, versions.filterMap fun t => (Version.ofText t).toOption⟩
  | _ => none

/-- The catalog of a package site: all listings, and the identifiers of the packages updated
recently. -/
structure Catalog where
  listings : List Listing
  updated : List Text
  deriving DecidableEq, Repr

/-- The listings of the updated packages, in listing order. -/
def Catalog.recent (c : Catalog) : List Listing :=
  c.listings.filter fun l => c.updated.contains l.identifier

inductive ListingFault where
  | notUserProject
  | noVersions
  deriving DecidableEq, Repr

structure ListingError where
  identifier : Text
  fault : ListingFault
  deriving DecidableEq, Repr

def ListingFault.text : ListingFault → Text
  | .notUserProject => "expected user/project"
  | .noVersions => "no published versions"

def ListingError.message (e : ListingError) : Text :=
  "malformed package summary '".toList ++ e.identifier ++ "': ".toList ++ e.fault.text

structure Release where
  user : Text
  project : Text
  version : Version
  deriving DecidableEq, Repr

namespace Release

/-- The newest release of a listing, which is the first one listed. -/
def ofListing (l : Listing) : Except ListingError Release :=
  match l.identifier.splitOn '/' with
  | [user, project] =>
    match l.versions with
    | version :: _ => .ok ⟨user, project, version⟩
    | [] => .error ⟨l.identifier, .noVersions⟩
  | _ => .error ⟨l.identifier, .notUserProject⟩

/-- The key of a release: `user/project/version`. -/
def identifier (r : Release) : Text := r.user ++ '/' :: r.project ++ '/' :: r.version.text

/-- The address of a release's pages, whether or not the base address ends in slashes. -/
def pagesUrl (r : Release) (base : Text) : Text :=
  Text.dropEndWhile (· = '/') base ++ "/packages/".toList ++ r.identifier ++ ['/']

def docsUrl (r : Release) (base : Text) : Text := r.pagesUrl base ++ "docs.json".toList

def valueUrl (r : Release) (base : Text) (n : Name) : Text := r.pagesUrl base ++ n.anchor

end Release

end DocIndex
