import DocIndex.State

/-!
The answer to a look-up of a name in one package, as text.
-/
namespace DocIndex

/-- The held release that a text asks for: by its identifier, or by what stands before the last part
of it when only one held release has that. -/
def Index.findHolding? (i : Index) (package : Text) : Option (Text × Holding) :=
  match i.holdings.get? package with
  | some h => some (package, h)
  | none =>
    match i.holdings.entries.filter fun e => (package ++ ['/']).isPrefixOf e.1 with
    | [e] => some e
    | _ => none

/-- The qualified names that a name may mean: all with its identifier, or only the one in its home
if it has one. -/
def Holding.candidates (h : Holding) (n : Name) : List Name :=
  (h.exports.resolve n.ident).filter fun c => n.home.isEmpty || c.home = n.home

def Docs.entry? (d : Docs) (n : Name) : Option (Entry Text) :=
  (d.modules.get? n.home).bind fun m => m.entries.get? n.ident

namespace Page

def candidateBlock (base : Text) (h : Holding) (n : Name) : Text :=
  '`' :: n.dotted ++ "`\n".toList ++
  (match h.docs.entry? n with
    | some e => "   : ".toList ++ e.signature ++ ['\n']
    | none => []) ++
  "   ".toList ++ h.release.valueUrl base n ++ "\n\n".toList

def lookupIn (base : Text) (identifier : Text) (h : Holding) (n : Name) : Text :=
  match h.candidates n with
  | [] => "No value named '".toList ++ n.dotted ++ "' in ".toList ++ identifier ++ ['.']
  | candidates =>
    '\'' :: n.dotted ++ "' in ".toList ++ identifier ++ ":\n\n".toList ++
      candidates.flatMap (candidateBlock base h)

def lookup (base : Text) (s : State) (package : Text) (n : Name) : Except Text Text :=
  if n.ident.isEmpty then .error "Name must not be empty"
  else
    match s.index? with
    | none =>
      .error ("No package docs loaded yet (session is ".toList ++ s.label ++
        "). Check status and try again.".toList)
    | some i =>
      match i.findHolding? (Text.trim package) with
      | none =>
        .error ("Package '".toList ++ package ++ "' is not loaded. ".toList ++
          "Only recently updated packages are fetched; see status for the loaded list.".toList)
      | some (identifier, h) => .ok (lookupIn base identifier h n)

end Page

end DocIndex
