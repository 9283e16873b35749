import DocIndex.Json.Basic

/-!
Reading a JSON text. Strings are first cut into pieces, characters and sixteen-bit units written as
escapes, and units are paired up afterwards.
-/
namespace DocIndex.Json

def skipBlank (t : Text) : Text :=
  t.dropWhile fun c => c = ' ' || c = '\n' || c = '\t' || c = '\r'

def hexDigit? (c : Char) : Option Nat :=
  if c.isDigit then some (c.toNat - '0'.toNat)
  else if 'a' ≤ c ∧ c ≤ 'f' then some (c.toNat - 'a'.toNat + 10)
  else if 'A' ≤ c ∧ c ≤ 'F' then some (c.toNat - 'A'.toNat + 10)
  else none

def hexValue? (digits : Text) : Option Nat :=
  digits.foldlM (fun n c => (hexDigit? c).map (16 * n + ·)) 0

/-- What a string is written with: a character, or a unit named by its number. -/
inductive Piece where
  | char (c : Char)
  | unit (n : Nat)

def escaped? : Char → Option Char
  | '"' => some '"'
  | '\\' => some '\\'
  | '/' => some '/'
  | 'b' => some '\x08'
  | 'f' => some '\x0c'
  | 'n' => some '\n'
  | 'r' => some '\r'
  | 't' => some '\t'
  | _ => none

def readPieces : Text → Option (List Piece × Text)
  | [] => none
  | '"' :: rest => some ([], rest)
  | '\\' :: 'u' :: a :: b :: c :: d :: rest => do
    let n ← hexValue? [a, b, c, d]
    let (pieces, rest) ← readPieces rest
    return (.unit n :: pieces, rest)
  | '\\' :: c :: rest => do
    let e ← escaped? c
    let (pieces, rest) ← readPieces rest
    return (.char e :: pieces, rest)
  | c :: rest =>
    if c.toNat < 0x20 then none
    else do
      let (pieces, rest) ← readPieces rest
      return (.char c :: pieces, rest)

def isHighHalf (n : Nat) : Bool := 0xD800 ≤ n && n ≤ 0xDBFF

def isLowHalf (n : Nat) : Bool := 0xDC00 ≤ n && n ≤ 0xDFFF

/-- The text that pieces spell: a high half must be followed by a low half, and a low half must
follow a high one. -/
def Piece.text? : List Piece → Option Text
  | [] => some []
  | .char c :: rest => (Piece.text? rest).map (c :: ·)
  | .unit n :: .unit m :: rest =>
    if isHighHalf n then
      if isLowHalf m then
        (Piece.text? rest).map (Char.ofNat (0x10000 + (n - 0xD800) * 0x400 + (m - 0xDC00)) :: ·)
      else none
    else if isLowHalf n then none
    else (Piece.text? (.unit m :: rest)).map (Char.ofNat n :: ·)
  | .unit n :: rest =>
    if isHighHalf n || isLowHalf n then none else (Piece.text? rest).map (Char.ofNat n :: ·)

def readDigits (t : Text) : Option (Text × Text) :=
  match t.takeWhile Char.isDigit with
  | [] => none
  | digits => some (digits, t.dropWhile Char.isDigit)

/-- The whole part of a number: a zero alone, or digits that do not start with zero. -/
def readWhole : Text → Option (Text × Text)
  | '0' :: rest => some (['0'], rest)
  | t => readDigits t

def readFraction : Text → Option (Text × Text)
  | '.' :: rest => do
    let (digits, rest) ← readDigits rest
    return ('.' :: digits, rest)
  | t => some ([], t)

def readSign : Text → Text × Text
  | '+' :: rest => (['+'], rest)
  | '-' :: rest => (['-'], rest)
  | t => ([], t)

def readExponent : Text → Option (Text × Text)
  | c :: rest =>
    if c = 'e' ∨ c = 'E' then do
      let (sign, rest) := readSign rest
      let (digits, rest) ← readDigits rest
      return (c :: sign ++ digits, rest)
    else some ([], c :: rest)
  | [] => some ([], [])

def readNumber (t : Text) : Option (Text × Text) := do
  let (sign, t) := match t with
    | '-' :: rest => (['-'], rest)
    | t => ([], t)
  let (whole, t) ← readWhole t
  let (fraction, t) ← readFraction t
  let (exponent, t) ← readExponent t
  return (sign ++ whole ++ fraction ++ exponent, t)

mutual

/-- One value, and the text after it. `fuel` bounds the steps. -/
def readValue : Nat → Text → Option (Json × Text)
  | 0, _ => none
  | fuel + 1, t =>
    match skipBlank t with
    | '[' :: rest =>
      match skipBlank rest with
      | ']' :: rest => some (.array [], rest)
      | rest => do
        let (items, rest) ← readItems fuel rest
        return (.array items, rest)
    | '\x7b' :: rest =>
      match skipBlank rest with
      | '\x7d' :: rest => some (.object [], rest)
      | rest => do
        let (members, rest) ← readMembers fuel rest
        return (.object members, rest)
    | '"' :: rest => do
      let (pieces, rest) ← readPieces rest
      return (.string (Piece.text? pieces), rest)
    | 'n' :: 'u' :: 'l' :: 'l' :: rest => some (.null, rest)
    | 't' :: 'r' :: 'u' :: 'e' :: rest => some (.bool true, rest)
    | 'f' :: 'a' :: 'l' :: 's' :: 'e' :: rest => some (.bool false, rest)
    | rest => do
      let (literal, rest) ← readNumber rest
      return (.number literal, rest)

def readItems : Nat → Text → Option (List Json × Text)
  | 0, _ => none
  | fuel + 1, t => do
    let (item, t) ← readValue fuel t
    match skipBlank t with
    | ',' :: rest => do
      let (items, rest) ← readItems fuel rest
      return (item :: items, rest)
    | ']' :: rest => some ([item], rest)
    | _ => none

def readMembers : Nat → Text → Option (List (Option Text × Json) × Text)
  | 0, _ => none
  | fuel + 1, t =>
    match skipBlank t with
    | '"' :: rest => do
      let (pieces, rest) ← readPieces rest
      match skipBlank rest with
      | ':' :: rest => do
        let (value, rest) ← readValue fuel rest
        let member := (Piece.text? pieces, value)
        match skipBlank rest with
        | ',' :: rest => do
          let (members, rest) ← readMembers fuel rest
          return (member :: members, rest)
        | '\x7d' :: rest => some ([member], rest)
        | _ => none
      | _ => none
    | _ => none

end

/-- Reads a text that holds one value and blanks around it. Every value takes at least one
character and at most two steps for each, so the fuel suffices. -/
def read? (t : Text) : Option Json :=
  match readValue (2 * t.length + 2) t with
  | some (j, rest) => if (skipBlank rest).isEmpty then some j else none
  | none => none

end DocIndex.Json
