import DocIndex.Text.Blank

/-!
The `@docs` directives of a module's comment, which list the names that the module documents.

A directive starts a line and lists names with commas between them. The first piece that is not
wholly a name is taken to run into prose: its first word still counts if it is a name, and the rest
of that directive is passed over.
-/
namespace DocIndex.Directive

/-- The start of a directive: it must begin a line, and not the first one. -/
def marker : Text := "\n@docs "

def isWordChar (c : Char) : Bool := c.isAlphanum || c = '_'

def isOperatorChar (c : Char) : Bool :=
  !(Text.isBlank c || isWordChar c || c = '(' || c = ')')

/-- Whether a text is a name that a directive may list: a word of ASCII letters, digits and
underscores that starts with a letter, or an operator in parentheses. -/
def isIdentifier : Text → Bool
  | [] => false
  | '(' :: rest =>
    rest.getLast? = some ')' && !rest.dropLast.isEmpty && rest.dropLast.all isOperatorChar
  | c :: rest => c.isAlpha && rest.all isWordChar

def listedNames (isName : Text → Bool) : List Text → List Text
  | [] => []
  | piece :: pieces =>
    if isName (Text.trim piece) then Text.trim piece :: listedNames isName pieces
    else ((Text.firstWord piece).filter isName).toList

def documentedNames (isName : Text → Bool) (comment : Text) : List Text :=
  (Text.cutAt marker comment).tail.flatMap fun directive =>
    listedNames isName (directive.splitOn ',')

end DocIndex.Directive
