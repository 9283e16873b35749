import DocIndex.CommandLine.Basic

/-!
Reading a command line from left to right.

The value of an option that stands in an argument of its own is looked at only when the part goes
on with something else than a value or ends, so of two mistakes the later one may be reported.
-/
namespace DocIndex.CommandLine

/-- What a part has given so far. -/
structure Given where
  config : Option Text
  baseUrl : Option Text
  limit : Option Nat
  query : Option Text
  deriving DecidableEq, Repr

namespace Given

def empty : Given := ⟨none, none, none, none⟩

def has (g : Given) : Opt → Bool
  | .config => g.config.isSome
  | .baseUrl => g.baseUrl.isSome
  | .limit => g.limit.isSome

/-- Takes the value of an option. The path of a file is not empty, and a limit is a number of at
most 64 bits. -/
def accept (g : Given) (o : Opt) : Option Text → Except Stop Given
  | none => .error (.mistake .missingValue)
  | some v =>
    if g.has o then .error (.mistake .repeatedOption)
    else match o with
      | .config =>
        if v.isEmpty then .error (.mistake .missingValue) else .ok { g with config := some v }
      | .baseUrl => .ok { g with baseUrl := some v }
      | .limit =>
        match Text.natBelow? UInt64.size v with
        | some n => .ok { g with limit := some n }
        | none => .error (.mistake .malformedValue)

end Given

structure Scan where
  given : Given
  /-- The last option, with its value if that was there, while it is not accepted yet. -/
  pending : Option (Opt × Option Text)
  /-- Whether only arguments without a name follow. -/
  trailing : Bool
  deriving DecidableEq, Repr

namespace Scan

def start : Scan := ⟨.empty, none, false⟩

def awaits (s : Scan) : Bool := s.pending.any fun p => p.2.isNone

def resolve (s : Scan) : Except Stop Scan :=
  match s.pending with
  | none => .ok s
  | some (o, v) => do return { s with given := ← s.given.accept o v, pending := none }

/-- An option, whose value is there if it is in the same argument. -/
def option (s : Scan) (o : Opt) (value : Option Text) : Except Stop Scan := do
  let s ← s.resolve
  match value with
  | none => return { s with pending := some (o, none) }
  | some v => return { s with given := ← s.given.accept o (some v) }

def help (part : Part) (s : Scan) : Except Stop Scan := do
  let _ ← s.resolve
  .error (.help part)

/-- What stands after two dashes: a name, and a value after an equals sign. -/
def long (part : Part) (s : Scan) (body : Text) : Except Stop Scan :=
  let name := body.takeWhile (· ≠ '=')
  let value := if body.contains '=' then some (body.drop (name.length + 1)) else none
  if name = "help".toList then
    if value.isSome then .error (.mistake .surplusValue) else s.help part
  else
    match Opt.ofName? part name with
    | some o => s.option o value
    | none => .error (.mistake .unknownArgument)

/-- What stands after one dash: a letter, and a value after it. -/
def short (part : Part) (s : Scan) (letter : Char) (rest : Text) : Except Stop Scan :=
  if letter = 'h' then s.help part
  else if letter = 'n' ∧ part = .query then
    s.option .limit (match rest with
      | [] => none
      | '=' :: v => some v
      | v => some v)
  else .error (.mistake .unknownArgument)

/-- An argument without a name. Only a query takes one, its text. -/
def unnamed (part : Part) (s : Scan) (arg : Text) : Except Stop Scan :=
  match part with
  | .query =>
    if s.given.query.isSome then .error (.mistake .unknownArgument)
    else do
      let s ← s.resolve
      return { s with given := { s.given with query := some arg } }
  | .program =>
    if s.trailing && (Part.ofName? arg).isSome then .error (.mistake .unknownArgument)
    else .error (.mistake .unknownCommand)
  | _ => .error (.mistake .unknownArgument)

def step (part : Part) (s : Scan) (arg : Text) : Except Stop Scan :=
  if s.trailing then s.unnamed part arg
  else match arg with
    | ['-', '-'] => .ok { s with trailing := true }
    | '-' :: '-' :: body => s.long part body
    | '-' :: letter :: rest => s.short part letter rest
    | arg =>
      match s.pending with
      | some (o, none) => .ok { s with pending := some (o, some arg) }
      | _ => s.unnamed part arg

def part? (s : Scan) (arg : Text) : Option Part :=
  if s.trailing || s.awaits then none else Part.ofName? arg

end Scan

def readPart (part : Part) (args : List Text) : Except Stop Given := do
  let s ← args.foldlM (Scan.step part) .start
  let s ← s.resolve
  if part = .query ∧ s.given.query.isNone then .error (.mistake .missingArgument)
  else return s.given

/-- The help asked for by names of parts. Only the program has parts. -/
def readHelp : List Text → Except Stop Invocation
  | [] => .error (.help .program)
  | name :: rest =>
    match Part.ofName? name with
    | none => .error (.mistake .unknownCommand)
    | some part =>
      if rest.isEmpty then .error (.help part) else .error (.mistake .unknownCommand)

def Given.command (part : Part) (g : Given) : Option Command :=
  match part, g.query with
  | .serve, _ => some .serve
  | .query, some text => some (.query text g.limit)
  | _, _ => none

/-- Reads the program's own part, and the part that follows it. Options of the later part win. -/
def readFrom (s : Scan) : List Text → Except Stop Invocation
  | [] => do
    let s ← s.resolve
    return ⟨s.given.config, s.given.baseUrl, none⟩
  | arg :: rest =>
    match s.part? arg with
    | some .help => readHelp rest
    | some part => do
      let inner ← readPart part rest
      let s ← s.resolve
      return ⟨inner.config <|> s.given.config, inner.baseUrl <|> s.given.baseUrl,
        inner.command part⟩
    | none =>
      match s.step .program arg with
      | .ok t => readFrom t rest
      | .error e => .error e

def read (args : List Text) : Except Stop Invocation := readFrom .start args

end DocIndex.CommandLine
