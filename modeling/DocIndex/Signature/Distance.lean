import DocIndex.Scale
import DocIndex.Signature.Basic

/-!
The structural distance of two types: the same shape is compared part by part and the scores are
averaged; different shapes are unrelated. A record is asked only for the fields of the query.
-/
namespace DocIndex.Ty

open Scale

variable {σ : Type} [Scale σ]

/-- Constructors are compared by their parts after the last dot, so `Dict.Dict` matches `Dict`. -/
def headDistance (query candidate : Text) : σ :=
  let q := Text.afterLast '.' query
  let c := Text.afterLast '.' candidate
  if q = c then perfect
  else if q.map Char.toLower = c.map Char.toLower then low
  else unrelated

mutual

def distance : Ty → Ty → σ
  | .var a, .var b => if a = b then perfect else low
  | .var _, _ => medium
  | _, .var _ => medium
  | .function args result, .function args' result' =>
    if args.length = args'.length then mean (distances args args' ++ [result.distance result'])
    else unrelated
  | .apply head args, .apply head' args' =>
    if args.length = args'.length then
      if args.isEmpty then headDistance head head'
      else midpoint (headDistance head head') (mean (distances args args'))
    else unrelated
  | .tuple items, .tuple items' =>
    if items.length = items'.length then mean (distances items items') else unrelated
  | .record fields _, .record fields' _ =>
    if fields.isEmpty then (if fields'.isEmpty then perfect else low)
    else mean (fieldDistances fields fields')
  | _, _ => unrelated

def distances : List Ty → List Ty → List σ
  | t :: ts, u :: us => t.distance u :: distances ts us
  | _, _ => []

/-- The distance of each field from the candidate's first field of that name. -/
def fieldDistances : List (Text × Ty) → List (Text × Ty) → List σ
  | [], _ => []
  | (field, t) :: fields, candidate =>
    (match candidate.lookup field with
      | some u => t.distance u
      | none => unrelated) :: fieldDistances fields candidate

end

end DocIndex.Ty
