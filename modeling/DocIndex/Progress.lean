import DocIndex.State

/-!
Counts of the fetches of a session.

Nothing tells when all packages are in: a session is settled when as many fetches have ended as were
issued.
-/
namespace DocIndex

inductive CatalogStatus where
  | pending
  | loaded
  | failed
  deriving DecidableEq, Repr

def CatalogStatus.label : CatalogStatus → Text
  | .pending => "pending"
  | .loaded => "loaded"
  | .failed => "failed"

/-- Where the catalog stands, and how many fetches of documentation were issued, repeated ones
included, brought documentation, and failed. -/
structure Progress where
  catalog : CatalogStatus
  issued : Nat
  loaded : Nat
  failed : Nat
  deriving DecidableEq, Repr

namespace Progress

def start : Progress := ⟨.pending, 0, 0, 0⟩

def resolved (p : Progress) : Nat := p.loaded + p.failed

def unresolved (p : Progress) : Nat := p.issued - p.resolved

/-- Whether nothing more is to come: the catalog failed, or it is there and every issued fetch has
ended. -/
def settled (p : Progress) : Bool :=
  match p.catalog with
  | .pending => false
  | .failed => true
  | .loaded => p.issued ≤ p.resolved

def issue (p : Progress) (n : Nat) : Progress := { p with issued := p.issued + n }

def tally (p : Progress) : Event → Progress
  | .catalogArrived _ => { p with catalog := .loaded }
  | .catalogFailed _ => { p with catalog := .failed }
  | .docsArrived _ _ => { p with loaded := p.loaded + 1 }
  | .docsFailed _ => { p with failed := p.failed + 1 }
  | .queryChanged _ => p

end Progress

end DocIndex
