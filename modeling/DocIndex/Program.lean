import DocIndex.CommandLine.Help
import DocIndex.CommandLine.Read
import DocIndex.Session.Drain
import DocIndex.Settings.Discovery
import DocIndex.Site
import DocIndex.Tool.Call
import DocIndex.Text.Similarity

/-!
A run of the program for one command line.
-/
namespace DocIndex

namespace Session

/-- Answers the catalog's fetch, and then every open request in the order of their numbers. -/
def settle (t : Transport) (base : Text) (s : Session) : Session :=
  let s := ((s.endCatalog (Site.fetchCatalog t base)).getD s).drain
  s.requests.zipIdx.foldl
    (fun s r => ((s.answer r.2 (Site.fetchDocs t base r.1).toOption).getD s).drain) s

end Session

structure Outcome where
  output : Text
  code : Nat
  deriving DecidableEq, Repr

namespace Program

def failed (code : Nat) : Outcome := ⟨[], code⟩

/-- A single search. It does not wait for any fetch if it may wait for no second. -/
def runQuery (t : Transport) (g : Settings) (query : Text) (limit : Option Nat) : Outcome :=
  let s := if g.settleSeconds = 0 then Session.start else Session.start.settle t g.baseUrl
  match (s.call Float Text.resembles g (.search query limit)).2 with
  | .ok answer => ⟨answer ++ ['\n'], 0⟩
  | .error _ => failed 1

/-- Carries out an invocation. A server whose input has ended before the first message fails. -/
def carryOut (t : Transport) (g : Settings) (i : Invocation) : Outcome :=
  let g := { g with baseUrl := i.baseUrl.getD g.baseUrl }
  match i.command with
  | some (.query query limit) => runQuery t g query limit
  | some .serve => failed 1
  | none => failed 1

def run (t : Transport) (look : Text → FileEntry) (environment directory : Option Text)
    (args : List Text) : Outcome :=
  match CommandLine.read args with
  | .error (.mistake _) => failed 2
  | .error (.help part) => ⟨part.helpText, 0⟩
  | .ok i =>
    match Settings.discover look ⟨i.config, environment, directory⟩ with
    | .error _ => failed 1
    | .ok g => carryOut t g i

end Program

end DocIndex
