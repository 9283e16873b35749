import DocIndex.Toml.Quoted
import DocIndex.Toml.Scalar

/-!
Reading a TOML document, line by line: keys with values, and the headers of tables.
-/
namespace DocIndex.Toml

def skipBlank (t : Text) : Text := t.dropWhile fun c => c = ' ' || c = '\t'

def skipComment (t : Text) : Option Text :=
  match t with
  | '#' :: rest =>
    match rest.dropWhile fun c => !isForbidden c with
    | [] => some []
    | '\n' :: rest => some ('\n' :: rest)
    | '\r' :: '\n' :: rest => some ('\n' :: rest)
    | _ => none
  | t => some t

def skipLines : Nat → Text → Option Text
  | 0, _ => none
  | fuel + 1, t =>
    match skipBlank t with
    | '\n' :: rest => skipLines fuel rest
    | '\r' :: '\n' :: rest => skipLines fuel rest
    | '#' :: rest => do
      let rest ← skipComment ('#' :: rest)
      skipLines fuel rest
    | t => some t

def finishLine (t : Text) : Option Text := do
  match ← skipComment (skipBlank t) with
  | [] => return []
  | '\n' :: rest => return rest
  | '\r' :: '\n' :: rest => return rest
  | _ => none

def isBareKeyChar (c : Char) : Bool := c.isAlphanum || c = '_' || c = '-'

def readKey (t : Text) : Option (Text × Text) :=
  match t with
  | '"' :: rest => readBasic rest
  | '\'' :: rest => readLiteral rest
  | t =>
    match t.takeWhile isBareKeyChar with
    | [] => none
    | key => some (key, t.dropWhile isBareKeyChar)

/-- How deep arrays and tables in braces may stand in each other, and how many parts a key may
have. -/
def maxDepth : Nat := 80

def readParts : Nat → Text → Option (List Text × Text)
  | 0, _ => none
  | fuel + 1, t => do
    let (key, rest) ← readKey (skipBlank t)
    match skipBlank rest with
    | '.' :: rest => do
      let (keys, rest) ← readParts fuel rest
      return (key :: keys, rest)
    | rest => return ([key], rest)

def readPath (t : Text) : Option (List Text × Text) := readParts maxDepth t

mutual

/-- A value that holds others to at most the given number of levels, and the text after it. `fuel`
bounds the steps. -/
def readValue : Nat → Nat → Text → Option (Toml × Text)
  | 0, _, _ => none
  | fuel + 1, levels, t =>
    match t with
    | '[' :: rest =>
      if levels = 0 then none
      else do
        let (items, rest) ← readItems fuel (levels - 1) rest
        return (.array items, rest)
    | '\x7b' :: rest =>
      if levels = 0 then none
      else do
        let (entries, rest) ← readEntries fuel (levels - 1) [] rest
        return (.table .braces entries, rest)
    | '"' :: rest => do
      let (s, rest) ← readString ('"' :: rest)
      return (.string s, rest)
    | '\'' :: rest => do
      let (s, rest) ← readString ('\'' :: rest)
      return (.string s, rest)
    | t => do
      let (word, rest) := takeWord t
      return (← ofWord? word, rest)

def readItems : Nat → Nat → Text → Option (List Toml × Text)
  | 0, _, _ => none
  | fuel + 1, levels, t => do
    match ← skipLines (t.length + 1) t with
    | ']' :: rest => return ([], rest)
    | t => do
      let (item, rest) ← readValue fuel levels t
      match ← skipLines (rest.length + 1) rest with
      | ',' :: rest => do
        let (items, rest) ← readItems fuel levels rest
        return (item :: items, rest)
      | ']' :: rest => return ([item], rest)
      | _ => none

/-- The entries of a table in braces up to its closing brace, added to those that were read. Lines
may end and comments may stand everywhere but within a key. -/
def readEntries : Nat → Nat → Entries → Text → Option (Entries × Text)
  | 0, _, _, _ => none
  | fuel + 1, levels, entries, t => do
    match ← skipLines (t.length + 1) t with
    | '\x7d' :: rest => return (entries, rest)
    | t => do
      let (path, rest) ← readPath t
      match ← skipLines (rest.length + 1) rest with
      | '=' :: rest => do
        let (value, rest) ← readValue fuel levels (← skipLines (rest.length + 1) rest)
        let entries ← define path.dropLast (path.getLastD []) value .braces entries
        match ← skipLines (rest.length + 1) rest with
        | ',' :: rest => readEntries fuel levels entries rest
        | '\x7d' :: rest => return (entries, rest)
        | _ => none
      | _ => none

end

/-- The rest of a header after its opening bracket, and whether it has two. -/
def readHeader (t : Text) : Option ((List Text × Bool) × Text) :=
  match t with
  | '[' :: rest => do
    let (path, rest) ← readPath rest
    match rest with
    | ']' :: ']' :: rest => return ((path, true), rest)
    | _ => none
  | rest => do
    let (path, rest) ← readPath rest
    match rest with
    | ']' :: rest => return ((path, false), rest)
    | _ => none

def readExpression (d : Draft) (t : Text) : Option (Draft × Text) :=
  match t with
  | '[' :: rest => do
    let ((path, adds), rest) ← readHeader rest
    let d ← d.begin? path.dropLast (path.getLastD []) adds
    return (d, ← finishLine rest)
  | t => do
    let (path, rest) ← readPath t
    match rest with
    | '=' :: rest => do
      let (value, rest) ← readValue (2 * rest.length + 2) maxDepth (skipBlank rest)
      let d ← d.define? path.dropLast (path.getLastD []) value
      return (d, ← finishLine rest)
    | _ => none

def readExpressions : Nat → Draft → Text → Option Draft
  | 0, _, _ => none
  | fuel + 1, d, t => do
    match ← skipLines (t.length + 1) t with
    | [] => return d
    | t => do
      let (d, rest) ← readExpression d t
      readExpressions fuel d rest

/-- The entries of a document. A byte order mark before it does not count. -/
def read? (t : Text) : Option Entries :=
  let t := match t with
    | '\ufeff' :: rest => rest
    | t => t
  (readExpressions (t.length + 1) Draft.start t).bind Draft.complete

end DocIndex.Toml
