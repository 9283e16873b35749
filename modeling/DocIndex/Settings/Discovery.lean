import DocIndex.Settings.Source

/-!
Where settings come from: the file named on the command line, else the file named in the
environment, else the file in the user's configuration directory if there is one, else the standard
settings.
-/
namespace DocIndex

inductive FileEntry where
  | file (contents : Text)
  /-- A directory, or a file that holds no text. -/
  | unreadable
  | absent
  deriving DecidableEq, Repr

/-- Why there are no settings: the file cannot be read, or what it says is no settings. -/
inductive SettingsError where
  | unreadable (path : Text)
  | invalid (path : Text)
  deriving DecidableEq, Repr

namespace SettingsError

def parseFailure : Text := "Failed to parse config"

/-- The messages from the outermost to the innermost that this program gives. -/
def messages : SettingsError → List Text
  | .unreadable path => ["Failed to read config file ".toList ++ path]
  | .invalid path => ["Invalid config file ".toList ++ path, parseFailure]

end SettingsError

def settingsPath (directory : Text) : Text :=
  Text.dropEndWhile (· = '/') directory ++ "/docsearch/config.toml".toList

structure SettingsPlaces where
  /-- The path given on the command line. -/
  explicit : Option Text
  /-- The path given in the environment. -/
  environment : Option Text
  /-- The user's configuration directory. -/
  directory : Option Text

namespace SettingsPlaces

/-- The path that must hold settings. -/
def named? (p : SettingsPlaces) : Option Text := p.explicit <|> p.environment

def path? (p : SettingsPlaces) : Option Text := p.named? <|> p.directory.map settingsPath

end SettingsPlaces

/-- The user's configuration directory, from the directory set for it, which counts only if it is
absolute, and the home directory. -/
def configDirectory? (set home : Option Text) : Option Text :=
  match set with
  | some ('/' :: rest) => some ('/' :: rest)
  | _ => home.bind fun h => if h.isEmpty then none else some (h ++ "/.config".toList)

namespace Settings

def load (look : Text → FileEntry) (path : Text) : Except SettingsError Settings :=
  match look path with
  | .file contents =>
    match ofToml? contents with
    | some g => .ok g
    | none => .error (.invalid path)
  | .unreadable => .error (.unreadable path)
  | .absent => .error (.unreadable path)

/-- The settings that hold at the given places. Only in the user's directory may there be none. -/
def discover (look : Text → FileEntry) (places : SettingsPlaces) :
    Except SettingsError Settings :=
  match places.path? with
  | none => .ok standard
  | some path =>
    if places.named?.isNone && look path = .absent then .ok standard else load look path

end Settings

end DocIndex
