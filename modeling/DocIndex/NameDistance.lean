import DocIndex.Scale
import DocIndex.Text.Blank
import DocIndex.Text.LetterCase

/-!
The distance of a value's name from a query. What is compared is the core of each text: blanks
around it, opening parentheses before it and closing ones after it are dropped, and it is
lowercased, so `<|` finds `(<|)`.
-/
namespace DocIndex

open Scale

/-- What of a name or a query is compared. -/
def nameCore (t : Text) : Text :=
  Text.lowercase (Text.dropEndWhile (· = ')') ((Text.trim t).dropWhile (· = '(')))

/-- The distance of a name from a query: equal cores, a core that starts with the query's, one that
contains it or resembles it, anything else. -/
def nameDistance {σ : Type} [Scale σ] (resembles : Text → Text → Bool) (query name : Text) : σ :=
  let q := nameCore query
  let n := nameCore name
  if q.isEmpty then unrelated
  else if n = q then perfect
  else if q.isPrefixOf n then slight
  else if Text.hasPart q n || resembles q n then low
  else unrelated

end DocIndex
