import QueryRegistry.Document.SyntaxFault

/-! The steps of which the reading of a document is made. A parser takes the tokens that remain, of
which the first is the one it looks at, and gives what it has read with the tokens left over. The
place of a fault is told by the number of tokens unread there, the offending one among them; so a
parser knows nothing of the text between the tokens. -/

namespace QueryRegistry

structure Misfit where
  fault : SyntaxFault
  unread : Nat
  deriving DecidableEq, Repr

abbrev Parser := StateT (List Token) (Except Misfit)

namespace Parser

/-- A parser looks only at tokens that can be read: it stops as soon as it comes to one that
cannot. -/
def settle (tokens : List Token) : Except Misfit (List Token) :=
  match tokens with
  | .unreadable fault :: _ => .error ⟨.lexical fault, tokens.length⟩
  | _ => .ok tokens

def advance : Parser Unit := fun tokens => do
  let rest ← settle tokens.tail
  return ((), rest)

def peek : Parser (Option Token) := fun tokens => .ok (tokens.head?, tokens)

def lookAhead : Parser (Option Token) := fun tokens => do
  let rest ← settle tokens.tail
  return (rest.head?, tokens)

/-- The number of tokens unread, by which a later fault can name this place. -/
def place : Parser Nat := fun tokens => .ok (tokens.length, tokens)

def failAt {α : Type} (unread : Nat) (fault : SyntaxFault) : Parser α :=
  fun _ => .error ⟨fault, unread⟩

def fail {α : Type} (fault : SyntaxFault) : Parser α := fun tokens => .error ⟨fault, tokens.length⟩

def unexpected {α : Type} : Parser α := do
  fail (.unexpected (← peek))

def skip (token : Token) : Parser Bool := do
  if (← peek) = some token then
    advance
    return true
  else return false

def skipPunctuator (p : Punctuator) : Parser Bool := skip (.punctuator p)

def skipKeyword (word : String) : Parser Bool := skip (.name word)

def expectPunctuator (p : Punctuator) : Parser Unit := do
  unless ← skipPunctuator p do
    fail (.expected (.punctuator p) (← peek))

def expectKeyword (word : String) : Parser Unit := do
  unless ← skipKeyword word do
    fail (.expected (.keyword word) (← peek))

def expectName : Parser String := do
  match ← peek with
  | some (.name text) =>
    advance
    return text
  | found => fail (.expected .name found)

def atPunctuator (p : Punctuator) : Parser Bool := do
  return (← peek) = some (.punctuator p)

/-- Items up to a closing punctuator, at least one, and no more than `bound` of them. -/
def itemsUntil {α : Type} (close : Punctuator) (item : Parser α) : Nat → Parser (List α)
  | 0 => unexpected
  | bound + 1 => do
    let first ← item
    if ← skipPunctuator close then return [first]
    else return first :: (← itemsUntil close item bound)

/-- Items up to a closing punctuator, at least one. An item takes a token, so that one more than
there are tokens will fail before the bound does. -/
def items {α : Type} (close : Punctuator) (item : Parser α) : Parser (List α) := do
  itemsUntil close item ((← place) + 1)

def many {α : Type} (opening close : Punctuator) (item : Parser α) : Parser (List α) := do
  expectPunctuator opening
  items close item

def optionalMany {α : Type} (opening close : Punctuator) (item : Parser α) :
    Parser (List α) := do
  if ← skipPunctuator opening then items close item else return []

def any {α : Type} (opening close : Punctuator) (item : Parser α) : Parser (List α) := do
  expectPunctuator opening
  if ← skipPunctuator close then return [] else items close item

def separatedUpTo {α : Type} (separator : Punctuator) (item : Parser α) :
    Nat → Parser (List α)
  | 0 => unexpected
  | bound + 1 => do
    let first ← item
    if ← skipPunctuator separator then return first :: (← separatedUpTo separator item bound)
    else return [first]

def separated {α : Type} (separator : Punctuator) (item : Parser α) : Parser (List α) := do
  let _ ← skipPunctuator separator
  separatedUpTo separator item ((← place) + 1)

end Parser

end QueryRegistry
