import DocIndex.Progress
import DocIndex.Ranking
import DocIndex.Settings.Basic

/-!
The answer to a search, as text.
-/
namespace DocIndex.Page

/-- The hint that fetches are still open, so that a search has not seen their values. -/
def pendingNote (p : Progress) : Text :=
  if p.catalog = .pending then "\n\nStill loading the package catalog."
  else if p.settled then []
  else "\n\nStill loading: ".toList ++ Text.ofNat p.unresolved ++ " of ".toList ++
    Text.ofNat p.issued ++ " package fetches pending.".toList

def introduction (s : State) (p : Progress) : Text :=
  "Search by value name or by type signature.\n\nExamples:\n".toList ++
  "• `map`\n• `andThen`\n• `(a -> b) -> List a -> List b`\n• `String -> Maybe Int`\n".toList ++
  '\n' :: Text.ofNat ((s.index?.map fun i => i.holdings.size).getD 0) ++
  " packages loaded".toList ++ pendingNote p

def nothingFound (query : Text) (p : Progress) : Text :=
  "No results found for '".toList ++ query ++ "'.\n\nSearch tips:\n".toList ++
  "• A single lowercase word searches value names\n".toList ++
  "• Anything with `->`, a capitalized type or parentheses searches signatures\n".toList ++
  "• Type variable names do not matter: `x -> x` finds `a -> a`\n".toList ++
  (if query.contains '.' then
    "• Search by value name only, not the qualified `Module.value` form\n".toList else []) ++
  pendingNote p

section

variable {σ : Type} [Scale σ]

def scoreText (score : σ) : Text :=
  let n := Scale.hundredths score
  Text.ofNat (n / 100) ++ '.' :: Text.ofNat (n % 100 / 10) ++ Text.ofNat (n % 10)

/-- The line with the link to a value's documentation, if its release is held. -/
def linkLine (base : Text) (holdings : TextMap Holding) (v : IndexedValue) : Text :=
  match holdings.get? v.package with
  | some h => "   ".toList ++ h.release.valueUrl base v.name ++ ['\n']
  | none => []

def matchBlock (base : Text) (holdings : TextMap Holding) (number : Nat) (m : Match σ) : Text :=
  Text.ofNat number ++ ". `".toList ++ m.value.name.dotted ++ "` : ".toList ++
    m.value.entry.signature.text ++ "\n   ".toList ++
  m.value.package ++ " (score ".toList ++ scoreText m.score ++ ")\n".toList ++
  linkLine base holdings m.value ++
  (match Text.firstFullLine m.value.entry.comment with
    | some line => "   ".toList ++ line ++ ['\n']
    | none => []) ++ ['\n']

def matchBlocks (base : Text) (holdings : TextMap Holding) : Nat → List (Match σ) → List Text
  | _, [] => []
  | number, m :: ms =>
    matchBlock base holdings number m :: matchBlocks base holdings (number + 1) ms

/-- The first `limit` matches, with how many there are. -/
def found (query : Text) (matched : List (Match σ)) (limit : Nat) (s : State) (base : Text)
    (p : Progress) : Text :=
  let shown := min matched.length limit
  "Search results for '".toList ++ query ++ "' (".toList ++ Text.ofNat shown ++ " of ".toList ++
    Text.ofNat matched.length ++ " matches):\n\n".toList ++
  (matchBlocks base ((s.index?.map Index.holdings).getD TextMap.empty) 1
    (matched.take limit)).flatten ++
  (if shown < matched.length then
    "... ".toList ++ Text.ofNat (matched.length - shown) ++
      " more. Raise `limit` to see them.\n".toList else []) ++
  pendingNote p

end

def search (σ : Type) [Scale σ] (resembles : Text → Text → Bool) (query : Text) (limit : Nat)
    (base : Text) (p : Progress) (s : State) : Except Text Text :=
  match s with
  | .unavailable e =>
    .error ("Package catalog could not be loaded, so nothing is searchable.\n\n".toList ++
      e.message)
  | s =>
    match (rank resembles query s.values : Ranking σ) with
    | .introduction => .ok (introduction s p)
    | .nothing => .ok (nothingFound query p)
    | .found matched => .ok (found query matched limit s base p)

end DocIndex.Page
