/-!
Texts as lists of code points, with the operations the index needs on them: cutting at a marker,
trimming at both ends, and looking for a part.
-/
namespace DocIndex

/-- A text is the list of its code points, so text order is code point order. -/
abbrev Text := List Char

instance : Coe String Text := ⟨String.toList⟩

namespace Text

def ofNat (n : Nat) : Text := Nat.toDigits 10 n

def dropEndWhile (p : Char → Bool) (t : Text) : Text := (t.reverse.dropWhile p).reverse

def trimWhile (p : Char → Bool) (t : Text) : Text := dropEndWhile p (t.dropWhile p)

def hasPart (part : Text) : Text → Bool
  | [] => part.isEmpty
  | c :: rest => part.isPrefixOf (c :: rest) || hasPart part rest

theorem hasPart_iff (part : Text) : ∀ t : Text, hasPart part t = true ↔ part <:+: t
  | [] => by simp [hasPart]
  | c :: rest => by
    simp [hasPart, List.infix_cons_iff, hasPart_iff part rest]

/-- Cuts a text at a marker. `skip` counts the characters of a marker that are still to be left
out. -/
def cutSkipping (marker : Text) : Nat → Text → List Text
  | _, [] => [[]]
  | skip + 1, _ :: rest => cutSkipping marker skip rest
  | 0, c :: rest =>
    if marker.isPrefixOf (c :: rest) then [] :: cutSkipping marker (marker.length - 1) rest
    else (cutSkipping marker 0 rest).modifyHead (c :: ·)

/-- The pieces of a text between the occurrences of a non-empty marker, from left to right.
Occurrences do not overlap. -/
def cutAt (marker : Text) (t : Text) : List Text := cutSkipping marker 0 t

def join (separator : Text) (ts : List Text) : Text := separator.intercalate ts

/-- What follows the last `separator`; the whole text if there is none. -/
def afterLast (separator : Char) (t : Text) : Text := (t.splitOn separator).getLastD []

def replaceChar (old new : Char) (t : Text) : Text := t.map fun c => if c = old then new else c

end Text

end DocIndex
