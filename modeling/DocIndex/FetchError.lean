import DocIndex.Text.Basic

/-!
Why a page of a package site could not be had.
-/
namespace DocIndex

inductive FetchError where
  /-- The request brought no response. -/
  | transport (url : Text) (reason : Text)
  /-- The response was not a success. -/
  | status (url : Text) (code : Nat)
  /-- The body was not what the page should hold. -/
  | decode (url : Text) (reason : Text)
  deriving DecidableEq, Repr

namespace FetchError

def url : FetchError → Text
  | .transport url _ => url
  | .status url _ => url
  | .decode url _ => url

def message : FetchError → Text
  | .transport url reason => "request to ".toList ++ url ++ " failed: ".toList ++ reason
  | .status url code =>
    "request to ".toList ++ url ++ " returned HTTP ".toList ++ Text.ofNat code
  | .decode url reason =>
    "failed to decode response from ".toList ++ url ++ ": ".toList ++ reason

end FetchError

end DocIndex
