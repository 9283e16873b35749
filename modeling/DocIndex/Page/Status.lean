import DocIndex.Progress

/-!
The report on where a session stands, as text.
-/
namespace DocIndex.Page

def bullets (ts : List Text) : Text := ts.flatMap fun t => "• ".toList ++ t ++ ['\n']

/-- What has arrived. All held releases are listed only in a verbose report. -/
def indexReport (i : Index) (verbose : Bool) : Text :=
  '\n' :: Text.ofNat i.holdings.size ++ " packages loaded, ".toList ++
    Text.ofNat i.values.length ++ " values indexed\n".toList ++
  (if i.query.isEmpty then [] else "Current query: '".toList ++ i.query ++ "'\n".toList) ++
  (if verbose then "\nLoaded:\n".toList ++ bullets i.holdings.keys else []) ++
  (if i.failed.isEmpty then []
    else "\nFailed (use retry to fetch again):\n".toList ++
      bullets (i.failed.map Listing.identifier))

def stateReport (s : State) (verbose : Bool) : Text :=
  match s with
  | .waiting => "\nWaiting for the package catalog.\n"
  | .unavailable e => "\nCatalog fetch failed: ".toList ++ e.message ++ ['\n']
  | .listed updated =>
    "\nFetching docs for ".toList ++ Text.ofNat updated.length ++
      " recently updated packages.\n".toList
  | .indexed i => indexReport i verbose

def status (base : Text) (p : Progress) (s : State) (verbose : Bool) : Text :=
  "Registry: ".toList ++ base ++ "\nState: ".toList ++ s.label ++ "\nCatalog: ".toList ++
  p.catalog.label ++ " | fetches issued ".toList ++ Text.ofNat p.issued ++ ", loaded ".toList ++
  Text.ofNat p.loaded ++ ", failed ".toList ++ Text.ofNat p.failed ++ ", pending ".toList ++
  Text.ofNat p.unresolved ++ '\n' :: stateReport s verbose

end DocIndex.Page
