import DocIndex.Text.Basic

/-!
Jaro-Winkler similarity, from 0 for texts with nothing in common to 1 for equal texts.

A character of the second text matches the first character of the first text that equals it, lies
within the window around its place, and is not matched yet.
-/
namespace DocIndex.Text

def matchWindow (s t : Text) : Nat := max s.length t.length / 2 - 1

/-- Marks the first free occurrence of a character among `span` places after the first `skip`
ones. Each character of the list comes with whether it is matched already. -/
def markFirst (c : Char) : Nat → Nat → List (Char × Bool) → Option (List (Char × Bool))
  | _, _, [] => none
  | skip + 1, span, p :: rest => (markFirst c skip span rest).map (p :: ·)
  | 0, 0, _ => none
  | 0, span + 1, (d, taken) :: rest =>
    if d = c && !taken then some ((d, true) :: rest)
    else (markFirst c 0 span rest).map ((d, taken) :: ·)

/-- Matches the characters of the second text from place `j` on. Gives the first text with its
matched characters marked, and the matched characters of the second text. -/
def matchFrom (window : Nat) : Nat → Text → List (Char × Bool) → List (Char × Bool) × Text
  | _, [], marks => (marks, [])
  | j, c :: rest, marks =>
    match markFirst c (j - window) (j + window + 1 - (j - window)) marks with
    | some marks =>
      let (marks, matched) := matchFrom window (j + 1) rest marks
      (marks, c :: matched)
    | none => matchFrom window (j + 1) rest marks

/-- The number of matching characters, and half the number of those out of order, rounded down. -/
def matchCounts (s t : Text) : Nat × Nat :=
  let (marks, matched) := matchFrom (matchWindow s t) 0 t (s.map fun c => (c, false))
  let own := (marks.filter (·.2)).map (·.1)
  (own.length, ((own.zip matched).filter fun p => p.1 ≠ p.2).length / 2)

/-- The mean of three shares: the matches in each text, and the matches in order among all. -/
def jaro (s t : Text) : Float :=
  match s, t with
  | [], [] => 1.0
  | [], _ => 0.0
  | _, [] => 0.0
  | [c], [d] => if c = d then 1.0 else 0.0
  | s, t =>
    let (matched, transposed) := matchCounts s t
    if matched = 0 then 0.0
    else
      let m := Float.ofNat matched
      (m / Float.ofNat s.length + m / Float.ofNat t.length + (m - Float.ofNat transposed) / m) / 3.0

def commonStart (s t : Text) : Nat :=
  (((s.take 4).zip (t.take 4)).takeWhile fun p => p.1 = p.2).length

/-- A similarity above 0.7 is raised by a tenth of what is missing for each character of the common
start. -/
def similarity (s t : Text) : Float :=
  let sim := jaro s t
  if sim > 0.7 then sim + Float.ofNat (commonStart s t) * 0.1 * (1.0 - sim) else sim

def resembles (s t : Text) : Bool := similarity s t ≥ 0.9

end DocIndex.Text
