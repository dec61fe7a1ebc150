import QueryRegistry.Document.Value

/-! Tokens of a document, what they are called in a report, and the reasons for which characters
form no token. A place that cannot be read is a token of its own, the last one of its text. -/

namespace QueryRegistry

inductive Punctuator where
  | bang
  | dollar
  | ampersand
  | parenthesisOpen
  | parenthesisClose
  | dots
  | colon
  | equals
  | atSign
  | bracketOpen
  | bracketClose
  | braceOpen
  | pipe
  | braceClose
  deriving DecidableEq, Repr, Inhabited

namespace Punctuator

def text : Punctuator → String
  | bang => "!"
  | dollar => "$"
  | ampersand => "&"
  | parenthesisOpen => "("
  | parenthesisClose => ")"
  | dots => "..."
  | colon => ":"
  | equals => "="
  | atSign => "@"
  | bracketOpen => "["
  | bracketClose => "]"
  | braceOpen => "\x7b"
  | pipe => "|"
  | braceClose => "\x7d"

def ofChar? : Char → Option Punctuator
  | '!' => some bang
  | '$' => some dollar
  | '&' => some ampersand
  | '(' => some parenthesisOpen
  | ')' => some parenthesisClose
  | ':' => some colon
  | '=' => some equals
  | '@' => some atSign
  | '[' => some bracketOpen
  | ']' => some bracketClose
  | '\x7b' => some braceOpen
  | '|' => some pipe
  | '\x7d' => some braceClose
  | _ => none

end Punctuator

/-- Why characters form no token. `found` is the character met, if the text goes on. -/
inductive LexicalFault where
  | digitAfterZero (found : Option Char)
  | digitExpected (found : Option Char)
  | unterminatedQuotation
  | unknownEscape (escape : String)
  | unknownCodePoint (escape : String)
  | singleQuote
  | strayCharacter (found : Char)
  deriving DecidableEq, Repr, Inhabited

inductive Token where
  | punctuator (p : Punctuator)
  | name (text : String)
  | int (digits : String)
  | float (digits : String)
  | quoted (quotation : Quotation)
  | unreadable (fault : LexicalFault)
  deriving DecidableEq, Repr, Inhabited

end QueryRegistry
