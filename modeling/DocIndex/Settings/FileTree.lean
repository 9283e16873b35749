import DocIndex.Settings.Discovery

/-!
The files of a working directory, and what stands at a path among them.
-/
namespace DocIndex

structure FileTree where
  /-- The absolute path of the working directory. -/
  root : Text
  /-- The files with their contents, at paths from the working directory. A later file replaces an
  earlier one at the same place. Each path was made as it is written, so every name in it but the
  last one has made a directory. -/
  files : List (Text × Text)

namespace FileTree

def names (path : Text) : List Text := path.splitOn '/'

/-- Where a name leads from a place. A place is given by the names that lead to it from the working
directory; those that lead above it come first. -/
def step (place : List Text) (name : Text) : List Text :=
  if name.isEmpty || name == ['.'] then place
  else if name != ['.', '.'] then place ++ [name]
  else if place.getLast? == none || place.getLast? == some name then place ++ [name]
  else place.dropLast

def place (names : List Text) : List Text := names.foldl step []

def passed (start : List Text) : List Text → List (List Text)
  | [] => []
  | n :: rest => start :: passed (step start n) rest

def file? (t : FileTree) (p : List Text) : Option Text :=
  (t.files.reverse.find? fun f => place (names f.1) == p).map (·.2)

/-- Whether a place is a directory: the working directory, one above it, or one that a file's path
passes through. -/
def isDirectory (t : FileTree) (p : List Text) : Bool :=
  p.all (· == ['.', '.']) || t.files.any fun f => (passed [] (names f.1)).contains p

def walk (t : FileTree) (p : List Text) : List Text → Option (List Text)
  | [] => some p
  | n :: rest => if t.isDirectory p then t.walk (step p n) rest else none

def relative? (t : FileTree) (path : Text) : Option Text :=
  let above := t.root ++ ['/']
  if above.isPrefixOf path then some (path.drop above.length)
  else if path.isEmpty || path.head? = some '/' then none
  else some path

def entry (t : FileTree) (path : Text) : FileEntry :=
  match (t.relative? path).bind fun p => t.walk [] (names p) with
  | none => .absent
  | some p =>
    match t.file? p with
    | some contents => .file contents
    | none => if t.isDirectory p then .unreadable else .absent

end FileTree

end DocIndex
