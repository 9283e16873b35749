import DocIndex.Json.Basic
import DocIndex.Text.Blank

/-!
Qualified names: a module path and the identifier it exports.
-/
namespace DocIndex

/-- A name `ident` in the module `home`; the home of an unqualified name is empty. -/
structure Name where
  home : Text
  ident : Text
  deriving DecidableEq, Repr

namespace Name

/-- Reads a dotted text: what follows the last dot is the identifier, what stands before it the
home. -/
def ofDotted (t : Text) : Name :=
  ⟨Text.join ['.'] (t.splitOn '.').dropLast, Text.afterLast '.' t⟩

/-- The parts that are not empty, with a dot between them. -/
def dotted (n : Name) : Text :=
  match n.home, n.ident with
  | [], ident => ident
  | home, [] => home
  | home, ident => home ++ '.' :: ident

/-- The place of a name in a package's rendered documentation, such as `Json-Decode#map`. -/
def anchor (n : Name) : Text := Text.replaceChar '.' '-' n.home ++ '#' :: n.ident

def le (m n : Name) : Bool := m.home < n.home || (m.home = n.home && !(n.ident < m.ident))

def ofJson? (j : Json) : Option Name := j.text?.map fun t => ofDotted (Text.trim t)

end Name

end DocIndex
