import DocIndex.Name

/-!
The tools that a session offers: their names, what they are for, the arguments they take, and the
reading of arguments.
-/
namespace DocIndex

inductive Tool where
  | search
  | status
  | lookup
  | retry
  deriving DecidableEq, Repr

inductive ToolCall where
  | search (query : Text) (limit : Option Nat)
  | status (verbose : Bool)
  | lookup (package : Text) (name : Name)
  | retry (package : Option Text)
  deriving DecidableEq, Repr

namespace Tool

def all : List Tool := [.search, .status, .lookup, .retry]

def name : Tool → Text
  | .search => "search"
  | .status => "status"
  | .lookup => "lookup"
  | .retry => "retry"

def ofName? (t : Text) : Option Tool := all.find? fun tool => tool.name = t

def description : Tool → Text
  | .search =>
    "Search package documentation by value name (e.g. 'map', 'andThen') or by type ".toList ++
    "signature (e.g. '(a -> b) -> List a -> List b'). Type variable names are ignored. ".toList ++
    "Results cover recently updated packages loaded so far, best match first, with links ".toList ++
    "to the rendered docs.".toList
  | .status =>
    "Show loading progress: catalog state, package fetches issued/loaded/failed, ".toList ++
    "number of indexed values, and which packages failed.".toList
  | .lookup =>
    "Resolve a bare or qualified value name within one loaded package, listing every ".toList ++
    "module that exports it with its signature and documentation link.".toList
  | .retry =>
    "Fetch documentation again for packages that failed to load. Pass a package as ".toList ++
    "'user/project' to retry just that one, or omit it to retry all failures.".toList

structure Argument where
  name : Text
  schema : List (Text × Json)
  required : Bool

def schemaOf (type description : String) (more : List (Text × Json)) : List (Text × Json) :=
  ("type", Json.ofText type) :: ("description", Json.ofText description) :: more

def nullable : List (Text × Json) := [("nullable", .bool true), ("default", .null)]

def arguments : Tool → List Argument
  | .search => [
      ⟨"query", schemaOf "string"
        "A value name (`map`, `andThen`) or a type signature (`(a -> b) -> List a -> List b`)" [],
        true⟩,
      ⟨"limit", schemaOf "integer"
        "Maximum number of results to return (default: configured search limit)"
        (("format", Json.ofText "uint") :: ("minimum", Json.ofNat 0) :: nullable), false⟩]
  | .status => [
      ⟨"verbose", schemaOf "boolean"
        "List every loaded package release (default: false, only counts are shown)"
        [("default", .bool false)], false⟩]
  | .lookup => [
      ⟨"package", schemaOf "string" "Package as `user/project` or `user/project/version`" [],
        true⟩,
      ⟨"name", schemaOf "string"
        "Value name, either bare (`map`) or qualified (`Json.Decode.map`)" [], true⟩]
  | .retry => [
      ⟨"package", schemaOf "string"
        "Package to retry as `user/project`; omit to retry every failed package" nullable, false⟩]

def schemaTitle : Tool → Text
  | .search => "SearchRequest"
  | .status => "StatusRequest"
  | .lookup => "LookupRequest"
  | .retry => "RetryRequest"

/-- The JSON schema of a tool's arguments. A list of required arguments is given only if there are
any. -/
def schema (t : Tool) : Json :=
  let required := (t.arguments.filter (·.required)).map fun a => Json.ofText a.name
  let requirement : List (Text × Json) :=
    if required.isEmpty then [] else [("required", .array required)]
  .ofMembers <|
    ("$schema", .ofText "http://json-schema.org/draft-07/schema#") ::
    ("title", .ofText t.schemaTitle) ::
    ("type", .ofText "object") ::
    ("properties", .ofMembers (t.arguments.map fun a => (a.name, .ofMembers a.schema))) ::
    requirement

end Tool

namespace ToolCall

def optional? {α : Type} (item : Json → Option α) : Option Json → Option (Option α)
  | none => some none
  | some .null => some none
  | some j => (item j).map some

def ofArguments? (t : Tool) (j : Json) : Option ToolCall := do
  let values ← Json.record? (t.arguments.map fun a => [a.name]) j
  match t, values with
  | .search, [query, limit] =>
    return .search (← Json.requiredText? query) (← optional? (Json.natBelow? UInt64.size) limit)
  | .status, [verbose] =>
    match verbose with
    | none => return .status false
    | some j => return .status (← j.bool?)
  | .lookup, [package, name] =>
    return .lookup (← Json.requiredText? package) (← name.bind Name.ofJson?)
  | .retry, [package] => return .retry (← optional? Json.text? package)
  | _, _ => none

end ToolCall

end DocIndex
