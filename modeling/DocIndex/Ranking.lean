import DocIndex.IndexedValue
import DocIndex.NameDistance
import DocIndex.Signature.Distance

/-!
Ranking of indexed values against a query. A query that is a type is compared with the types of the
values, any other one with their names; what scores more than the least penalty is left out.
-/
namespace DocIndex

inductive Query where
  | name (text : Text)
  | type (canonical : Ty)

/-- A text asks for a type unless all of it is one variable. -/
def Query.ofText (t : Text) : Query :=
  let canonical := (Ty.ofSignature t).normalize
  if canonical.isVar then .name t else .type canonical

structure Match (σ : Type) where
  score : σ
  value : IndexedValue

inductive Ranking (σ : Type) where
  /-- There is no query yet. -/
  | introduction
  | nothing
  /-- The matches, the best first; equal scores stay in the order of the index. -/
  | found (matched : List (Match σ))

section

variable {σ : Type} [Scale σ] (resembles : Text → Text → Bool)

def Query.score : Query → IndexedValue → σ
  | .name t, v => nameDistance resembles t v.entry.name
  | .type canonical, v => canonical.distance v.canonical

/-- The values within the least penalty, in index order. -/
def Query.hits (q : Query) (values : List IndexedValue) : List (Match σ) :=
  (values.map fun v => ⟨q.score resembles v, v⟩).filter fun m => Scale.le m.score Scale.low

def Match.le (m n : Match σ) : Bool := Scale.le m.score n.score

def rank (query : Text) (values : List IndexedValue) : Ranking σ :=
  if query.isEmpty then .introduction
  else
    match (Query.hits resembles (Query.ofText query) values).mergeSort Match.le with
    | [] => .nothing
    | matched => .found matched

end

namespace Ranking

variable {σ : Type}

def toList : Ranking σ → List (Match σ)
  | .found matched => matched
  | _ => []

def size (r : Ranking σ) : Nat := r.toList.length

end Ranking

end DocIndex
