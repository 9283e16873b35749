import DocIndex.Text.Decimal

/-!
What a command line asks for, and why one may ask for nothing.
-/
namespace DocIndex

inductive Command where
  | serve
  | query (text : Text) (limit : Option Nat)
  deriving DecidableEq, Repr

structure Invocation where
  config : Option Text
  baseUrl : Option Text
  command : Option Command
  deriving DecidableEq, Repr

namespace CommandLine

/-- The parts of a command line. The program's own part comes first, and each other part begins
with its name. -/
inductive Part where
  | program
  | serve
  | query
  | help
  deriving DecidableEq, Repr

def Part.ofName? (name : Text) : Option Part :=
  match String.ofList name with
  | "serve" => some .serve
  | "query" => some .query
  | "help" => some .help
  | _ => none

inductive Opt where
  | config
  | baseUrl
  | limit
  deriving DecidableEq, Repr

/-- The option with a long name. The limit belongs to a query, the others to every part. -/
def Opt.ofName? (part : Part) (name : Text) : Option Opt :=
  match String.ofList name, part with
  | "config", _ => some .config
  | "base-url", _ => some .baseUrl
  | "limit", .query => some .limit
  | _, _ => none

inductive UsageError where
  | unknownArgument
  | missingArgument
  /-- An option's value is missing, or empty where it may not be. -/
  | missingValue
  | malformedValue
  | unknownCommand
  /-- An option is given twice in one part. -/
  | repeatedOption
  /-- A value is given to an option that takes none. -/
  | surplusValue
  deriving DecidableEq, Repr

/-- Why a command line is not carried out. -/
inductive Stop where
  | mistake (e : UsageError)
  | help (part : Part)
  deriving DecidableEq, Repr

end CommandLine

end DocIndex
