import DocIndex.Signature.Basic
import DocIndex.Signature.Token
import DocIndex.Text.LetterCase

/-!
Reading a type from tokens. A reader takes the tokens from some place on and gives what it has read
with the tokens after it. A nested type is read by a reader one level lower, so the recursion is on
the number of levels left; the loops inside one level are bounded by the number of tokens.
-/
namespace DocIndex

abbrev Reading := Except SyntaxError

namespace Token

def expect (t : Token) : List Token → Reading (Unit × List Token)
  | [] => .error .unexpectedEnd
  | u :: rest => if u = t then .ok ((), rest) else .error (.unexpectedToken u)

def expectIdent : List Token → Reading (Text × List Token)
  | [] => .error .unexpectedEnd
  | .ident name :: rest => .ok (name, rest)
  | u :: _ => .error (.unexpectedToken u)

def readSeparated {α : Type} (separator : Token)
    (item : List Token → Reading (α × List Token)) :
    Nat → List Token → Reading (List α × List Token)
  | 0, _ => .error .unexpectedEnd
  | fuel + 1, ts => do
    let (x, rest) ← item ts
    match rest with
    | [] => .ok ([x], [])
    | u :: rest =>
      if u = separator then do
        let (xs, rest) ← readSeparated separator item fuel rest
        .ok (x :: xs, rest)
      else .ok ([x], u :: rest)

def readAtoms {α : Type} (item : List Token → Reading (α × List Token)) :
    Nat → List Token → Reading (List α × List Token)
  | 0, ts => .ok ([], ts)
  | _ + 1, [] => .ok ([], [])
  | fuel + 1, u :: rest =>
    if u.startsAtom then do
      let (x, rest) ← item (u :: rest)
      let (xs, rest) ← readAtoms item fuel rest
      .ok (x :: xs, rest)
    else .ok ([], u :: rest)

end Token

namespace Ty

open Token

/-- An identifier names a constructor when its part after the last dot starts in upper case. -/
def namesConstructor (name : Text) : Bool :=
  match Text.afterLast '.' name with
  | [] => false
  | c :: _ => Text.isUppercase c

def ofIdent (name : Text) : Ty := if namesConstructor name then .apply name [] else .var name

/-- Types in parentheses: one is itself, several are a tuple. -/
def ofParenthesized : List Ty → Ty
  | [t] => t
  | ts => .tuple ts

/-- The last of the types between arrows is the result of a function of the others. -/
def ofArrows : List Ty → Ty → Ty
  | [], t => t
  | args, result => .function args result

section

variable (inner : List Token → Reading (Ty × List Token))

def readField (ts : List Token) : Reading ((Text × Ty) × List Token) := do
  let (field, rest) ← expectIdent ts
  let ((), rest) ← expect .colon rest
  let (t, rest) ← inner rest
  .ok ((field, t), rest)

/-- The variable that a record extends, if a pipe follows the first token. -/
def readBase : List Token → Reading (Option Text × List Token)
  | u :: .pipe :: rest => do
    let (name, _) ← expectIdent [u]
    .ok (some name, rest)
  | ts => .ok (none, ts)

def readRecord : List Token → Reading (Ty × List Token)
  | .closeBrace :: rest => .ok (.record [] none, rest)
  | ts => do
    let (base, rest) ← readBase ts
    let (fields, rest) ← readSeparated .comma (readField inner) (rest.length + 1) rest
    let ((), rest) ← expect .closeBrace rest
    .ok (.record fields base, rest)

def readParenthesized : List Token → Reading (Ty × List Token)
  | .closeParen :: rest => .ok (.tuple [], rest)
  | ts => do
    let (items, rest) ← readSeparated .comma inner (ts.length + 1) ts
    let ((), rest) ← expect .closeParen rest
    .ok (ofParenthesized items, rest)

def readAtom : List Token → Reading (Ty × List Token)
  | [] => .error .unexpectedEnd
  | .ident name :: rest => .ok (ofIdent name, rest)
  | .openParen :: rest => readParenthesized inner rest
  | .openBrace :: rest => readRecord inner rest
  | u :: _ => .error (.unexpectedToken u)

def readApplied (ts : List Token) : Reading (Ty × List Token) := do
  let (head, rest) ← readAtom inner ts
  match rest with
  | [] => .ok (head, [])
  | u :: rest =>
    if u.startsAtom then
      match head with
      | .apply name [] => do
        let (args, rest) ← readAtoms (readAtom inner) (rest.length + 1) (u :: rest)
        .ok (.apply name args, rest)
      | .var name => .error (.appliedVariable name)
      | _ => .error (.unexpectedToken u)
    else .ok (head, u :: rest)

def readArrows (ts : List Token) : Reading (Ty × List Token) := do
  let (parts, rest) ← readSeparated .arrow (readApplied inner) (ts.length + 1) ts
  match parts.getLast? with
  | some result => .ok (ofArrows parts.dropLast result, rest)
  | none => .error .unexpectedEnd

end

/-- A type that may nest types to the given number of levels, itself counted. -/
def readNested : Nat → List Token → Reading (Ty × List Token)
  | 0, _ => .error .tooDeep
  | levels + 1, ts => readArrows (readNested levels) ts

def ofTokens (ts : List Token) : Reading Ty := do
  let (t, rest) ← readNested SyntaxError.maxDepth ts
  match rest with
  | [] => .ok t
  | u :: _ => .error (.unexpectedToken u)

def ofText (t : Text) : Reading Ty := do ofTokens (← Token.scan t)

/-- The type of a text found in documentation or in a query: a text that is no signature counts as a
variable of its own. -/
def ofSignature (t : Text) : Ty :=
  match ofText t with
  | .ok ty => ty
  | .error _ => .var (Text.trim t)

end Ty

end DocIndex
