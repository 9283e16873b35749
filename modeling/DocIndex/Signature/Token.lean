import DocIndex.Text.Alphabet
import DocIndex.Text.Blank

/-!
The tokens of signature texts, and the causes for which a signature is refused.
-/
namespace DocIndex

inductive Token where
  | ident (name : Text)
  | arrow
  | openParen
  | closeParen
  | openBrace
  | closeBrace
  | comma
  | colon
  | pipe
  deriving DecidableEq, Repr

inductive SyntaxError where
  | unexpectedChar (c : Char)
  | unexpectedToken (t : Token)
  | unexpectedEnd
  | appliedVariable (name : Text)
  | tooDeep
  deriving DecidableEq, Repr

namespace Token

def description : Token → Text
  | .ident name => "identifier '".toList ++ name ++ ['\'']
  | .arrow => "'->'"
  | .openParen => "'('"
  | .closeParen => "')'"
  | .openBrace => "'\x7b'"
  | .closeBrace => "'\x7d'"
  | .comma => "','"
  | .colon => "':'"
  | .pipe => "'|'"

def startsAtom : Token → Bool
  | .ident _ => true
  | .openParen => true
  | .openBrace => true
  | _ => false

def ofPunctuation? : Char → Option Token
  | '(' => some .openParen
  | ')' => some .closeParen
  | '\x7b' => some .openBrace
  | '\x7d' => some .closeBrace
  | ',' => some .comma
  | ':' => some .colon
  | '|' => some .pipe
  | _ => none

def startsIdent (c : Char) : Bool := Text.isAlphabetic c || c = '_'

def continuesIdent (c : Char) : Bool := Text.isAlphanumeric c || c = '_' || c = '.'

/-- Puts the identifier whose characters were read, in reverse, before the tokens after it. -/
def closeIdent : Text → List Token → List Token
  | [], tokens => tokens
  | word, tokens => .ident word.reverse :: tokens

/-- The tokens of a text that follows the characters `word`, in reverse, of an identifier. -/
def scanAfter : Text → Text → Except SyntaxError (List Token)
  | word, [] => .ok (closeIdent word [])
  | word, c :: rest =>
    if !word.isEmpty && continuesIdent c then scanAfter (c :: word) rest
    else if Text.isBlank c then (scanAfter [] rest).map (closeIdent word)
    else if c = '-' then
      match rest with
      | '>' :: rest => (scanAfter [] rest).map fun tokens => closeIdent word (.arrow :: tokens)
      | d :: _ => .error (.unexpectedChar d)
      | [] => .error .unexpectedEnd
    else
      match ofPunctuation? c with
      | some t => (scanAfter [] rest).map fun tokens => closeIdent word (t :: tokens)
      | none =>
        if startsIdent c then (scanAfter [c] rest).map (closeIdent word)
        else .error (.unexpectedChar c)

/-- The tokens of a text. Blanks part tokens; a dash stands only in an arrow; an identifier starts
with a letter or an underscore and goes on with letters, digits, underscores and dots. -/
def scan (t : Text) : Except SyntaxError (List Token) := scanAfter [] t

end Token

namespace SyntaxError

def maxDepth : Nat := 64

def message : SyntaxError → Text
  | .unexpectedChar c => "unexpected character '".toList ++ [c, '\'']
  | .unexpectedToken t => "unexpected ".toList ++ t.description
  | .unexpectedEnd => "unexpected end of signature"
  | .appliedVariable name => "type variable '".toList ++ name ++ "' cannot take arguments".toList
  | .tooDeep =>
    "signature nests deeper than ".toList ++ Text.ofNat maxDepth ++ " levels".toList

end SyntaxError

end DocIndex
