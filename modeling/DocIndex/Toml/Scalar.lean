import DocIndex.Json.Read
import DocIndex.Toml.Basic

/-!
TOML values that are written as one bare word: numbers, truth values, dates and times.
-/
namespace DocIndex.Toml

def digits? (isDigit : Char → Bool) (t : Text) : Option Text :=
  let groups := t.splitOn '_'
  if groups.all fun g => !g.isEmpty && g.all isDigit then some groups.flatten else none

def takeSign : Text → Bool × Text
  | '+' :: rest => (false, rest)
  | '-' :: rest => (true, rest)
  | t => (false, t)

def signed (negative : Bool) (n : Nat) : Int := if negative then -(n : Int) else n

/-- Digits that write a whole number: no zeros are before it. -/
def whole? (t : Text) : Option Text := do
  let ds ← digits? Char.isDigit t
  match ds with
  | '0' :: _ :: _ => none
  | ds => return ds

def isHexDigit (c : Char) : Bool := (Json.hexDigit? c).isSome

def valueIn (base : Nat) (ds : Text) : Nat :=
  ds.foldl (fun n c => base * n + (Json.hexDigit? c).getD 0) 0

/-- A whole number in a base, after the letter that names the base. Without digits it has no
value. -/
def based? (base : Nat) (isDigit : Char → Bool) (t : Text) : Option (Option Int) :=
  if t.isEmpty then some none
  else (digits? isDigit t).map fun ds => some (valueIn base ds : Int)

/-- Whether a group of a word stands well beside its underscores: a hexadecimal digit is next to
each of them. -/
def groupFits : List Text → Bool
  | [] => true
  | [g] => g.head?.any isHexDigit
  | g :: gs => g.head?.any isHexDigit && g.getLast?.any isHexDigit && groupFits gs

/-- Whether what follows a sign passes for a whole number without being one: digits of which the
first is not zero, then groups after underscores; no point, no exponent and no blank but tabs. -/
def passesForWhole (t : Text) : Bool :=
  (match t.splitOn '_' with
    | g :: h :: groups =>
      !g.isEmpty && g.all Char.isDigit && g.head? != some '0' && groupFits (h :: groups)
    | _ => false) &&
  !t.any fun c => c = '.' || c = 'e' || c = 'E' || c = ' '

def integer? (t : Text) : Option (Option Int) :=
  match t with
  | '0' :: 'x' :: rest => based? 16 isHexDigit rest
  | '0' :: 'o' :: rest => based? 8 (fun c => '0' ≤ c && c ≤ '7') rest
  | '0' :: 'b' :: rest => based? 2 (fun c => c = '0' || c = '1') rest
  | t =>
    let (negative, rest) := takeSign t
    match whole? rest with
    | some ds => some (some (signed negative (valueIn 10 ds)))
    | none => if passesForWhole rest then some none else none

/-- Whether the number `digits * 10 ^ exponent` is rounded to infinity: it is at least halfway from
the largest binary64 number to the next power of two. -/
def overflows (digits : Text) (exponent : Int) : Bool :=
  let m := valueIn 10 digits
  if m = 0 then false
  else
    let size := ((Nat.toDigits 10 m).length : Int) + exponent
    if size < 300 then false
    else if 320 < size then true
    else
      let bound := Nat.pow 2 1024 - Nat.pow 2 970
      if 0 ≤ exponent then bound ≤ m * Nat.pow 10 exponent.toNat
      else bound * Nat.pow 10 (-exponent).toNat ≤ m

def exponent? (t : Text) : Option Int :=
  let (negative, rest) := takeSign t
  (digits? Char.isDigit rest).map fun ds => signed negative (valueIn 10 ds)

def mantissa? (t : Text) : Option (Text × Nat) :=
  match t.splitOn '.' with
  | [whole] => (whole? whole).map fun ds => (ds, 0)
  | [whole, fraction] => do
    let ds ← whole? whole
    let fs ← digits? Char.isDigit fraction
    return (ds ++ fs, fs.length)
  | _ => none

/-- A floating point number: a fraction or an exponent marks it, unless it is infinite or no number.
The result says whether its value is too large. -/
def float? (t : Text) : Option Bool :=
  let rest := (takeSign t).2
  if rest = "inf".toList || rest = "nan".toList then some false
  else
    match rest.splitOnP fun c => c = 'e' || c = 'E' with
    | [m] =>
      if m.contains '.' then
        (mantissa? m).map fun (ds, places) => overflows ds (-(places : Int))
      else none
    | [m, e] => do
      let (ds, places) ← mantissa? m
      let e ← exponent? e
      return overflows ds (e - places)
    | _ => none

def fixedDigits? (n : Nat) (t : Text) : Option Nat :=
  if t.length = n && t.all Char.isDigit then some (valueIn 10 t) else none

def isLeapYear (y : Nat) : Bool := y % 4 = 0 && (y % 100 ≠ 0 || y % 400 = 0)

def daysIn (year month : Nat) : Nat :=
  if month = 2 then (if isLeapYear year then 29 else 28)
  else if month = 4 || month = 6 || month = 9 || month = 11 then 30
  else 31

def isDate (t : Text) : Bool :=
  match t.splitOn '-' with
  | [y, m, d] =>
    match fixedDigits? 4 y, fixedDigits? 2 m, fixedDigits? 2 d with
    | some y, some m, some d => 1 ≤ m && m ≤ 12 && 1 ≤ d && d ≤ daysIn y m
    | _, _, _ => false
  | _ => false

def isUpTo (bound : Nat) (t : Text) : Bool := (fixedDigits? 2 t).any fun n => n ≤ bound

/-- Seconds with or without a fraction; the sixtieth is a leap second. -/
def isSeconds (t : Text) : Bool :=
  match t.splitOn '.' with
  | [s] => isUpTo 60 s
  | [s, fraction] => isUpTo 60 s && !fraction.isEmpty && fraction.all Char.isDigit
  | _ => false

def isTime (t : Text) : Bool :=
  match t.splitOn ':' with
  | [h, m] => isUpTo 23 h && isUpTo 59 m
  | [h, m, s] => isUpTo 23 h && isUpTo 59 m && isSeconds s
  | _ => false

def isZonedTime (t : Text) : Bool :=
  match t.getLast? with
  | some 'Z' => isTime t.dropLast
  | some 'z' => isTime t.dropLast
  | _ =>
    match t.splitOnP fun c => c = '+' || c = '-' with
    | [time] => isTime time
    | [time, offset] =>
      isTime time && (match offset.splitOn ':' with
        | [h, m] => isUpTo 23 h && isUpTo 59 m
        | _ => false)
    | _ => false

def isMoment (t : Text) : Bool :=
  isDate t || isTime t ||
    (isDate (t.take 10) &&
      (match t.drop 10 with
        | c :: time => (c = 'T' || c = 't' || c = ' ') && isZonedTime time
        | [] => false))

def ofWord? (t : Text) : Option Toml :=
  if t = "true".toList then some (.boolean true)
  else if t = "false".toList then some (.boolean false)
  else if isMoment t then some .moment
  else
    match integer? t with
    | some n => some (.integer n)
    | none => (float? t).map .float

def endsWord (c : Char) : Bool :=
  c = ' ' || c = '\t' || c = '\n' || c = '\r' || c = '=' || c = ',' || c = '[' || c = ']' ||
    c = '\x7b' || c = '\x7d' || c = '#'

/-- Whether a word goes on over the blanks that a text starts with: what stands after them neither
ends a word nor opens a string. -/
def goesOn (t : Text) : Bool :=
  match t.dropWhile fun c => c = ' ' || c = '\t' with
  | [] => false
  | c :: _ => !endsWord c && c != '"' && c != '\''

def takeWord : Text → Text × Text
  | [] => ([], [])
  | c :: rest =>
    if !endsWord c || goesOn (c :: rest) then
      let (word, rest) := takeWord rest
      (c :: word, rest)
    else ([], c :: rest)

end DocIndex.Toml
