import DocIndex.Text.Basic

/-!
What can be set: the package site, and how a search answers.
-/
namespace DocIndex

structure Settings where
  /-- The address of the package site. -/
  baseUrl : Text
  /-- The number of matches that a search shows unless it says otherwise. -/
  limit : Nat
  /-- For how many seconds a single search waits for fetches to end. -/
  settleSeconds : Nat
  deriving DecidableEq, Repr

def Settings.standard : Settings := ⟨"https://package.elm-lang.org", 20, 30⟩

end DocIndex
