import DocIndex.Page.Lookup
import DocIndex.Page.Search
import DocIndex.Page.Status
import DocIndex.Session.Basic
import DocIndex.Tool.Basic

/-!
What a session answers to a call, and how the call changes it.
-/
namespace DocIndex

inductive ToolReply where
  | unknownTool
  | invalidArguments
  | answer (text : Text)
  | failure (message : Text)
  deriving DecidableEq, Repr

def ToolReply.isError : ToolReply → Bool
  | .answer _ => false
  | _ => true

namespace Session

variable (σ : Type) [Scale σ] (resembles : Text → Text → Bool)

/-- A search sets the query by an event, so the state changes only later; the answer is drawn from
the state as it is. -/
def search (g : Settings) (s : Session) (query : Text) (limit : Option Nat) :
    Session × Except Text Text :=
  let query := Text.trim query
  (s.setQuery query,
    Page.search σ resembles query (limit.getD g.limit) g.baseUrl s.progress s.state)

def callRetry (s : Session) : Option Text → Session × Except Text Text
  | none =>
    match s.missing.length with
    | 0 => (s, .ok "No failed packages to retry.")
    | n =>
      (s.retryMissing, .ok ("Retrying ".toList ++ Text.ofNat n ++
        " failed packages. Check status for progress.".toList))
  | some package =>
    let package := Text.trim package
    match s.state.index? with
    | none =>
      (s, .error ("Nothing has failed yet (session is ".toList ++ s.state.label ++ ").".toList))
    | some i =>
      match i.failed.find? fun l => l.identifier = package with
      | none => (s, .error ('\'' :: package ++ "' is not in the failed list.".toList))
      | some l =>
        (s.retry l, .ok ("Retrying ".toList ++ package ++
          ". Check status for progress.".toList))

def call (g : Settings) (s : Session) : ToolCall → Session × Except Text Text
  | .search query limit => s.search σ resembles g query limit
  | .status verbose => (s, .ok (Page.status g.baseUrl s.progress s.state verbose))
  | .lookup package name => (s, Page.lookup g.baseUrl s.state package name)
  | .retry package => s.callRetry package

/-- The reply to a request for a tool by its name, with arguments that are not read yet, and the
session after it. -/
def serve (g : Settings) (s : Session) (name : Text) (arguments : Json) : Session × ToolReply :=
  match Tool.ofName? name with
  | none => (s, .unknownTool)
  | some tool =>
    match ToolCall.ofArguments? tool arguments with
    | none => (s, .invalidArguments)
    | some c =>
      match s.call σ resembles g c with
      | (t, .ok text) => (t, .answer text)
      | (t, .error message) => (t, .failure message)

end Session

end DocIndex
