import DocIndex.CommandLine.Basic

/-!
The help for each part of a command line.
-/
namespace DocIndex.CommandLine

def Part.purpose : Part → Text
  | .program => "Search package documentation by name or type signature"
  | .serve => "Run the MCP server over stdio (the default)"
  | .query => "Load the catalog, wait for package docs to settle, and print ranked results"
  | .help => "Print this message or the help of the given subcommand(s)"

def programName : Text := "docsearch-cli"

/-- What is written after the program's name to call a part. -/
def Part.form : Part → Text
  | .program => "[OPTIONS] [COMMAND]"
  | .serve => "serve [OPTIONS]"
  | .query => "query [OPTIONS] <QUERY>"
  | .help => "help [COMMAND]..."

def Part.usage (p : Part) : Text := programName ++ ' ' :: p.form

structure Section where
  title : Text
  rows : List (Text × Text)

/-- The rows of a section, the meanings below each other. -/
def Section.text (s : Section) : Text :=
  let width := (s.rows.map fun r => r.1.length).foldl max 0
  s.title ++ ":\n".toList ++ (s.rows.map fun r =>
    "  ".toList ++ r.1 ++ List.replicate (width - r.1.length) ' ' ++ "  ".toList ++ r.2 ++
      ['\n']).flatten

def row (name meaning : String) : Text × Text := (name.toList, meaning.toList)

def configRow : Text × Text :=
  row "    --config <CONFIG>"
    "Config file (default: $DOCSEARCH_CONFIG, then the user config directory)"

def baseUrlRow : Text × Text :=
  row "    --base-url <BASE_URL>" "Package site to fetch from, overriding the config file"

def limitRow : Text × Text := row "-n, --limit <LIMIT>" ""

def helpRow : Text × Text := row "-h, --help" "Print help"

def Part.sections : Part → List Section
  | .program =>
    [⟨"Commands", [("serve", Part.serve.purpose), ("query", Part.query.purpose),
      ("help", Part.help.purpose)]⟩,
     ⟨"Options", [configRow, baseUrlRow, helpRow]⟩]
  | .serve => [⟨"Options", [configRow, baseUrlRow, helpRow]⟩]
  | .query =>
    [⟨"Arguments", [row "<QUERY>" ""]⟩,
     ⟨"Options", [configRow, limitRow, baseUrlRow, helpRow]⟩]
  | .help => [⟨"Arguments", [row "[COMMAND]..." "Print help for the subcommand(s)"]⟩]

def Part.helpText (p : Part) : Text :=
  p.purpose ++ "\n\nUsage: ".toList ++ p.usage ++ ['\n'] ++
    (p.sections.map fun s => '\n' :: s.text).flatten

end DocIndex.CommandLine
