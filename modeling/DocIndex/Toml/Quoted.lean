import DocIndex.Json.Read

/-!
TOML strings: basic ones with escapes and literal ones without, on one line or on several.
-/
namespace DocIndex.Toml

/-- Characters that no string and no comment may hold: all control characters but the tab. -/
def isForbidden (c : Char) : Bool := (c.toNat < 0x20 && c ≠ '\t') || c.toNat = 0x7f

def escaped? : Char → Option Char
  | '"' => some '"'
  | '\\' => some '\\'
  | 'b' => some '\x08'
  | 'e' => some '\x1b'
  | 'f' => some '\x0c'
  | 'n' => some '\n'
  | 'r' => some '\r'
  | 't' => some '\t'
  | _ => none

def scalar? (digits : Text) : Option Char := do
  let n ← Json.hexValue? digits
  if n.isValidChar then return Char.ofNat n else none

def cons (c : Option Char) (r : Option (Text × Text)) : Option (Text × Text) := do
  let c ← c
  let (t, rest) ← r
  return (c :: t, rest)

def readBasic : Text → Option (Text × Text)
  | [] => none
  | '"' :: rest => some ([], rest)
  | '\\' :: 'x' :: a :: b :: rest => cons (scalar? [a, b]) (readBasic rest)
  | '\\' :: 'u' :: a :: b :: c :: d :: rest => cons (scalar? [a, b, c, d]) (readBasic rest)
  | '\\' :: 'U' :: a :: b :: c :: d :: e :: f :: g :: h :: rest =>
    cons (scalar? [a, b, c, d, e, f, g, h]) (readBasic rest)
  | '\\' :: c :: rest => cons (escaped? c) (readBasic rest)
  | c :: rest => if isForbidden c then none else cons (some c) (readBasic rest)

def readLiteral : Text → Option (Text × Text)
  | [] => none
  | '\'' :: rest => some ([], rest)
  | c :: rest => if isForbidden c then none else cons (some c) (readLiteral rest)

def endsLine (t : Text) : Bool :=
  match t.dropWhile fun c => c = ' ' || c = '\t' with
  | '\n' :: _ => true
  | '\r' :: '\n' :: _ => true
  | _ => false

/-- A basic string on several lines, with its line ends as they are written. `trimming` says that a
backslash has ended a line, so blanks and line ends are passed over. Up to two quotes may stand
before the closing three. -/
def readBasicLines (trimming : Bool) : Text → Option (Text × Text)
  | [] => none
  | '"' :: '"' :: '"' :: '"' :: '"' :: rest => some (['"', '"'], rest)
  | '"' :: '"' :: '"' :: '"' :: rest => some (['"'], rest)
  | '"' :: '"' :: '"' :: rest => some ([], rest)
  | '\r' :: '\n' :: rest =>
    if trimming then readBasicLines true rest
    else cons (some '\r') (cons (some '\n') (readBasicLines false rest))
  | '\n' :: rest =>
    if trimming then readBasicLines true rest else cons (some '\n') (readBasicLines false rest)
  | '\\' :: 'x' :: a :: b :: rest => cons (scalar? [a, b]) (readBasicLines false rest)
  | '\\' :: 'u' :: a :: b :: c :: d :: rest =>
    cons (scalar? [a, b, c, d]) (readBasicLines false rest)
  | '\\' :: 'U' :: a :: b :: c :: d :: e :: f :: g :: h :: rest =>
    cons (scalar? [a, b, c, d, e, f, g, h]) (readBasicLines false rest)
  | '\\' :: c :: rest =>
    if endsLine (c :: rest) then
      (if c = '\r' || c = '\n' || c = ' ' || c = '\t' then readBasicLines true rest else none)
    else cons (escaped? c) (readBasicLines false rest)
  | c :: rest =>
    if trimming && (c = ' ' || c = '\t') then readBasicLines true rest
    else if isForbidden c then none
    else cons (some c) (readBasicLines false rest)

def readLiteralLines : Text → Option (Text × Text)
  | [] => none
  | '\'' :: '\'' :: '\'' :: '\'' :: '\'' :: rest => some (['\'', '\''], rest)
  | '\'' :: '\'' :: '\'' :: '\'' :: rest => some (['\''], rest)
  | '\'' :: '\'' :: '\'' :: rest => some ([], rest)
  | '\r' :: '\n' :: rest => cons (some '\r') (cons (some '\n') (readLiteralLines rest))
  | '\n' :: rest => cons (some '\n') (readLiteralLines rest)
  | c :: rest => if isForbidden c then none else cons (some c) (readLiteralLines rest)

/-- A line end right after the opening quotes of a string on several lines does not count. -/
def skipLineEnd : Text → Text
  | '\n' :: rest => rest
  | '\r' :: '\n' :: rest => rest
  | t => t

def readString : Text → Option (Text × Text)
  | '"' :: '"' :: '"' :: rest => readBasicLines false (skipLineEnd rest)
  | '"' :: rest => readBasic rest
  | '\'' :: '\'' :: '\'' :: rest => readLiteralLines (skipLineEnd rest)
  | '\'' :: rest => readLiteral rest
  | _ => none

end DocIndex.Toml
