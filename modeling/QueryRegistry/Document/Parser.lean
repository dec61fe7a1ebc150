import QueryRegistry.Document.Lexer
import QueryRegistry.Document.Parser.TypeSystem

/-! Reading a document from its text. Reading splits the text into tokens, reads the tokens, and
finds the place of a fault again from the number of tokens left unread; so texts with the same
tokens are the same document. -/

namespace QueryRegistry

namespace Parser

def definition? (word : String) : Option (Parser Definition) :=
  match typeSystemDefinition? word with
  | some body => some do
    let _ ← description
    advance
    return .typeSystem (← body)
  | none =>
    if (operationKind? word).isSome then some (.operation <$> operation)
    else if word = "fragment" then some (.fragment <$> fragment)
    else none

def described : Parser Definition := do
  let start ← place
  match ← lookAhead with
  | some (.punctuator .braceOpen) => fail .descriptionOfShorthand
  | some (.name word) =>
    match definition? word with
    | some body => body
    | none => fail .descriptionOfNothing
  | found => failAt (start - 1) (.unexpected found)

def definition : Parser Definition := do
  match ← peek with
  | some (.punctuator .braceOpen) => .operation <$> shorthand
  | some (.quoted _) => described
  | some (.name word) =>
    match definition? word with
    | some body => body
    | none => if word = "extend" then .typeSystem <$> typeSystemExtension else unexpected
  | _ => unexpected

def definitionsUpTo : Nat → Parser (List Definition)
  | 0 => unexpected
  | bound + 1 => do
    let first ← definition
    if (← peek).isNone then return [first]
    else return first :: (← definitionsUpTo bound)

/-- One definition at least. Each takes a token. -/
def document : Parser Document := do
  return ⟨← definitionsUpTo ((← place) + 1)⟩

def run (tokens : List Token) : Except Misfit Document := do
  let tokens ← settle tokens
  let (result, _) ← document tokens
  return result

end Parser

/-- The text from the token on behind which so many are unread. -/
def textFrom (found : List Lexeme) (unread : Nat) : List Char :=
  match found.drop (found.length - unread) with
  | [] => []
  | lexeme :: _ => lexeme.text

namespace Document

def parse (text : String) : Except SyntaxError Document :=
  let found := lexemes text.toList
  match Parser.run (found.map Lexeme.token) with
  | .ok document => .ok document
  | .error ⟨fault, unread⟩ =>
    .error ⟨fault, Location.before text.toList (textFrom found unread)⟩

end Document

end QueryRegistry
