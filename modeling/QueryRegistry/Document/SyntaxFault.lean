import QueryRegistry.Document.Token
import QueryRegistry.Text.Hexadecimal
import QueryRegistry.Text.Lines

/-! What can be wrong with the text of a document, where, and how it is reported. A fault names its
cause; its wording is made here and nowhere else. -/

namespace QueryRegistry

/-- A character as a report shows it: in single quotes if it is printable ASCII, and by its number
otherwise. -/
def describeChar (c : Char) : String :=
  if c == '"' then "'\"'"
  else if ' ' ≤ c && c ≤ '~' then "'" ++ String.singleton c ++ "'"
  else "U+" ++ String.ofList (upperHexDigits (if c.toNat < 0x10000 then 4 else
    if c.toNat < 0x100000 then 5 else 6) c.toNat)

def describeChar? : Option Char → String
  | none => "<EOF>"
  | some c => describeChar c

namespace LexicalFault

def message : LexicalFault → String
  | digitAfterZero found => "Invalid number, unexpected digit after 0: " ++ describeChar? found ++ "."
  | digitExpected found => "Invalid number, expected digit but got: " ++ describeChar? found ++ "."
  | unterminatedQuotation => "Unterminated string."
  | unknownEscape escape => "Invalid character escape sequence: '" ++ escape ++ "'."
  | unknownCodePoint escape => "Invalid Unicode escape sequence: '" ++ escape ++ "'."
  | singleQuote =>
    "Unexpected single quote character ('), did you mean to use a double quote (\")?"
  | strayCharacter found => "Unexpected character: " ++ describeChar found ++ "."

end LexicalFault

namespace Token

/-- A token as a report shows it; quotations are shown by what they say. -/
def describe : Token → String
  | punctuator p => "'" ++ p.text ++ "'"
  | name text => "Name '" ++ text ++ "'"
  | int digits => "Int '" ++ digits ++ "'"
  | float digits => "Float '" ++ digits ++ "'"
  | quoted ⟨text, false⟩ => "String '" ++ text ++ "'"
  | quoted ⟨text, true⟩ => "BlockString '" ++ text ++ "'"
  | unreadable fault => fault.message

def words? : Token → Option String
  | name text => some text
  | quoted quotation => some quotation.text
  | _ => none

end Token

def describeToken? : Option Token → String
  | none => "<EOF>"
  | some token => token.describe

inductive Expectation where
  | punctuator (p : Punctuator)
  | keyword (word : String)
  | name
  deriving DecidableEq, Repr, Inhabited

def Expectation.describe : Expectation → String
  | .punctuator p => "'" ++ p.text ++ "'"
  | .keyword word => "'" ++ word ++ "'"
  | .name => "Name"

/-- Why a text is not a document. `found` is the token met, if the text goes on. -/
inductive SyntaxFault where
  | lexical (fault : LexicalFault)
  | expected (what : Expectation) (found : Option Token)
  | unexpected (found : Option Token)
  | variableInConstant (name : String)
  | descriptionOfShorthand
  | descriptionOfNothing
  | reservedEnumValue (found : Token)
  | nestedTooDeeply
  deriving DecidableEq, Repr, Inhabited

namespace SyntaxFault

def description : SyntaxFault → String
  | lexical fault => fault.message
  | expected what found =>
    "Expected " ++ what.describe ++ ", found " ++ describeToken? found ++ "."
  | unexpected found => "Unexpected " ++ describeToken? found ++ "."
  | variableInConstant name => "Unexpected variable '$" ++ name ++ "' in constant value."
  | descriptionOfShorthand =>
    "Unexpected description, descriptions are not supported on shorthand queries."
  | descriptionOfNothing => "Unexpected description, only GraphQL definitions support descriptions."
  | reservedEnumValue found =>
    found.describe ++ " is reserved and cannot be used for an enum value."
  | nestedTooDeeply => "Document is nested too deeply. Parsing aborted."

end SyntaxFault

structure SyntaxError where
  fault : SyntaxFault
  location : Location
  deriving DecidableEq, Repr

def SyntaxError.message (error : SyntaxError) : String :=
  "Syntax Error: " ++ error.fault.description

end QueryRegistry
