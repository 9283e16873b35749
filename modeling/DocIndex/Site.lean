import DocIndex.Docs.Source
import DocIndex.FetchError
import DocIndex.Json.Read
import DocIndex.Release
import DocIndex.Text.Utf8

/-!
Pages of a package site, had through a transport that answers the request for an address.
-/
namespace DocIndex

inductive Reply where
  | unanswered (reason : Text)
  | response (status : Nat) (body : List UInt8)

abbrev Transport := Text → Reply

def Transport.offline : Transport := fun _ => .unanswered "error sending request"

namespace Site

def get (t : Transport) (url : Text) : Except FetchError Text :=
  match t url with
  | .unanswered reason => .error (.transport url reason)
  | .response status body =>
    if 200 ≤ status ∧ status < 300 then .ok (Text.ofUtf8 body) else .error (.status url status)

def decode {α : Type} (read : Json → Option α) (url body : Text) : Except FetchError α :=
  match (Json.read? body).bind read with
  | some a => .ok a
  | none => .error (.decode url "not of the expected form")

/-- A page of the site itself, whether or not the base address ends in slashes. -/
def pageUrl (base page : Text) : Text := Text.dropEndWhile (· = '/') base ++ '/' :: page

def listingsUrl (base : Text) : Text := pageUrl base "all-packages"

def updatedUrl (base : Text) : Text := pageUrl base "new-packages"

/-- The catalog. Both pages are had before one of them is read. -/
def fetchCatalog (t : Transport) (base : Text) : Except FetchError Catalog := do
  let listings ← get t (listingsUrl base)
  let updated ← get t (updatedUrl base)
  let listings ← decode (Json.list? Listing.ofJson?) (listingsUrl base) listings
  let updated ← decode (Json.list? Json.text?) (updatedUrl base) updated
  return ⟨listings, updated⟩

def fetchDocs (t : Transport) (base : Text) (r : Release) : Except FetchError Docs := do
  let body ← get t (r.docsUrl base)
  decode Docs.ofJson? (r.docsUrl base) body

end Site

end DocIndex
