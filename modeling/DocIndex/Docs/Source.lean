import DocIndex.Docs.Basic
import DocIndex.Text.Alphabet

/-!
The documentation as a package site serves it: a JSON list of modules, each with its values, type
aliases, types and operators.
-/
namespace DocIndex

/-- A value, an operator or a type alias, with its signature. -/
structure ValueSource where
  name : Text
  comment : Text
  signature : Text
  deriving DecidableEq, Repr

structure TypeSource where
  name : Text
  comment : Text
  args : List Text
  deriving DecidableEq, Repr

structure ModuleSource where
  name : Text
  comment : Text
  values : List ValueSource
  aliases : List ValueSource
  types : List TypeSource
  operators : List ValueSource
  deriving DecidableEq, Repr

def ValueSource.ofJson? (j : Json) : Option ValueSource := do
  match ← Json.record? [["name"], ["comment"], ["type"]] j with
  | [name, comment, signature] =>
    return ⟨← Json.requiredText? name, ← Json.textOrEmpty? comment, ← Json.requiredText? signature⟩
  | _ => none

def TypeSource.ofJson? (j : Json) : Option TypeSource := do
  match ← Json.record? [["name"], ["comment"], ["args"]] j with
  | [name, comment, args] =>
    return ⟨← Json.requiredText? name, ← Json.textOrEmpty? comment,
      ← Json.listOrEmpty? Json.text? args⟩
  | _ => none

def ModuleSource.ofJson? (j : Json) : Option ModuleSource := do
  let fields : List (List Text) :=
    [["name"], ["comment"], ["values"], ["aliases"], ["types", "unions"], ["binops"]]
  match ← Json.record? fields j with
  | [name, comment, values, aliases, types, operators] =>
    return ⟨← Json.requiredText? name, ← Json.textOrEmpty? comment,
      ← Json.listOrEmpty? ValueSource.ofJson? values,
      ← Json.listOrEmpty? ValueSource.ofJson? aliases,
      ← Json.listOrEmpty? TypeSource.ofJson? types,
      ← Json.listOrEmpty? ValueSource.ofJson? operators⟩
  | _ => none

/-- The key of an entry. Directives list operators in parentheses, so a name without letters,
digits and underscores is put in parentheses unless it starts with one. -/
def entryKey (name : Text) : Text :=
  let symbolic := !name.isEmpty && name.all fun c => !(Text.isAlphanumeric c || c = '_')
  if symbolic && name.head? != some '(' then '(' :: name ++ [')'] else name

def ValueSource.entry (v : ValueSource) : Entry Text := ⟨entryKey v.name, v.comment, v.signature⟩

/-- The signature of a type is its name followed by its arguments. -/
def TypeSource.entry (t : TypeSource) : Entry Text :=
  ⟨entryKey t.name, t.comment, Text.join [' '] (t.name :: t.args)⟩

/-- The entries of all items, in the order in which a later one replaces an earlier one. -/
def ModuleSource.entries (m : ModuleSource) : List (Entry Text) :=
  (m.values ++ m.operators ++ m.aliases).map ValueSource.entry ++ m.types.map TypeSource.entry

def ModuleSource.docs (m : ModuleSource) : ModuleDocs :=
  ⟨m.name, m.comment, TextMap.ofList (m.entries.map fun e => (e.name, e))⟩

def Docs.ofSources (ms : List ModuleSource) : Docs := Docs.ofModules (ms.map ModuleSource.docs)

def Docs.ofJson? (j : Json) : Option Docs :=
  (Json.list? ModuleSource.ofJson? j).map Docs.ofSources

end DocIndex
