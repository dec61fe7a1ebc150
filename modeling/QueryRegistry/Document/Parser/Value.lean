import QueryRegistry.Document.Parser.Basic

/-! Reading types, values and directives. `levels` is the number of further brackets that may be
opened inside one another at a place; the selections around a value have taken theirs from it. -/

namespace QueryRegistry

namespace Parser

/-- A document opens at most so many brackets inside one another. -/
def maxLevels : Nat := 200

def typeReference (levels : Nat) : Parser TypeReference := do
  let type ←
    if ← skipPunctuator .bracketOpen then
      match levels with
      | 0 => fail .nestedTooDeeply
      | inner + 1 => do
        let item ← typeReference inner
        expectPunctuator .bracketClose
        pure (TypeReference.list item)
    else TypeReference.named <$> expectName
  if ← skipPunctuator .bang then return .nonNull type else return type

/-- A name as a value: three of them have a meaning of their own. -/
def namedValue (text : String) : Value :=
  if text = "true" then .boolean true
  else if text = "false" then .boolean false
  else if text = "null" then .null
  else .enum text

def variableValue (constant : Bool) : Parser Value := do
  let start ← place
  expectPunctuator .dollar
  if constant then
    match ← peek with
    | some (.name text) => failAt start (.variableInConstant text)
    | _ => failAt start (.unexpected (some (.punctuator .dollar)))
  else return .variable (← expectName)

def value (constant : Bool) (levels : Nat) : Parser Value := do
  match ← peek with
  | some (.punctuator .bracketOpen) =>
    match levels with
    | 0 => fail .nestedTooDeeply
    | inner + 1 =>
      return .list (← any .bracketOpen .bracketClose (value constant inner))
  | some (.punctuator .braceOpen) =>
    match levels with
    | 0 => fail .nestedTooDeeply
    | inner + 1 =>
      return .object (← any .braceOpen .braceClose do
        let name ← expectName
        expectPunctuator .colon
        return (name, ← value constant inner))
  | some (.punctuator .dollar) => variableValue constant
  | some (.int digits) => do advance; return .int digits
  | some (.float digits) => do advance; return .float digits
  | some (.quoted quotation) => do advance; return .quoted quotation
  | some (.name text) => do advance; return namedValue text
  | _ => unexpected

def argument (constant : Bool) (levels : Nat) : Parser (String × Value) := do
  let name ← expectName
  expectPunctuator .colon
  return (name, ← value constant levels)

def arguments (constant : Bool) (levels : Nat) : Parser Arguments :=
  optionalMany .parenthesisOpen .parenthesisClose (argument constant levels)

def directive (constant : Bool) (levels : Nat) : Parser Directive := do
  expectPunctuator .atSign
  let name ← expectName
  return ⟨name, ← arguments constant levels⟩

def directivesUpTo (constant : Bool) (levels : Nat) : Nat → Parser (List Directive)
  | 0 => return []
  | bound + 1 => do
    if ← atPunctuator .atSign then
      let first ← directive constant levels
      return first :: (← directivesUpTo constant levels bound)
    else return []

def directives (constant : Bool) (levels : Nat) : Parser (List Directive) := do
  directivesUpTo constant levels (← place)

def description : Parser (Option Quotation) := do
  match ← peek with
  | some (.quoted quotation) => do advance; return some quotation
  | _ => return none

def constantDefault : Parser (Option Value) := do
  if ← skipPunctuator .equals then return some (← value true maxLevels) else return none

end Parser

end QueryRegistry
