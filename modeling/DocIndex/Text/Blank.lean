import DocIndex.Text.Basic
import DocIndex.Text.CodeRun

/-!
White space, as the `White_Space` property has it, and the trimming and word cutting built on it.
-/
namespace DocIndex.Text

/-- The `White_Space` code points. -/
def blankTable : List CodeRun := [
  ⟨0x9, 0xD, 1⟩, ⟨0x20, 0x20, 1⟩, ⟨0x85, 0x85, 1⟩, ⟨0xA0, 0xA0, 1⟩, ⟨0x1680, 0x1680, 1⟩,
  ⟨0x2000, 0x200A, 1⟩, ⟨0x2028, 0x2029, 1⟩, ⟨0x202F, 0x202F, 1⟩, ⟨0x205F, 0x205F, 1⟩,
  ⟨0x3000, 0x3000, 1⟩]

/-- White space. Zero width space and the byte order mark do not count. -/
def isBlank (c : Char) : Bool := CodeRun.tableHas blankTable c.toNat

def trim (t : Text) : Text := trimWhile isBlank t

def firstWord (t : Text) : Option Text :=
  match t.dropWhile isBlank with
  | [] => none
  | c :: rest => some (c :: rest.takeWhile fun d => !isBlank d)

/-- The first line that holds something besides white space, trimmed. -/
def firstFullLine (t : Text) : Option Text :=
  ((t.splitOn '\n').map trim).find? fun line => !line.isEmpty

end DocIndex.Text
