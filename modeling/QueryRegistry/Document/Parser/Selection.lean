import QueryRegistry.Document.Basic
import QueryRegistry.Document.Parser.Value

/-! Reading selections, operations and fragments. -/

namespace QueryRegistry

namespace Parser

/-- A fragment may have any name but the word that introduces its type. -/
def fragmentName : Parser String := do
  if (← peek).bind Token.words? = some "on" then unexpected else expectName

/-- A selection, given the reader of the selection sets inside it and the levels left to values. -/
def selection (selectionSet : Parser (List Selection)) (levels : Nat) : Parser Selection := do
  if ← skipPunctuator .dots then
    if ← skipKeyword "on" then
      let condition ← expectName
      let directives ← directives false levels
      return .inline (some condition) directives (some (← selectionSet))
    else
      match ← peek with
      | some (.name _) => do
        let name ← fragmentName
        return .spread name (← directives false levels)
      | _ => do
        let directives ← directives false levels
        return .inline none directives (some (← selectionSet))
  else
    let first ← expectName
    let (label, name) ←
      if ← skipPunctuator .colon then pure (some first, ← expectName) else pure (none, first)
    let arguments ← arguments false levels
    let directives ← directives false levels
    let selections ← if ← atPunctuator .braceOpen then some <$> selectionSet else pure none
    return .field label name arguments directives selections

def selectionSet : Nat → Parser (List Selection)
  | 0 => fail .nestedTooDeeply
  | levels + 1 => many .braceOpen .braceClose (selection (selectionSet levels) levels)

def variableDefinition : Parser VariableDefinition := do
  let description ← description
  expectPunctuator .dollar
  let name ← expectName
  expectPunctuator .colon
  let type ← typeReference maxLevels
  let default ← constantDefault
  return ⟨description, name, type, default, ← directives true maxLevels⟩

def operationKind? (word : String) : Option OperationKind :=
  if word = "query" then some .query
  else if word = "mutation" then some .mutation
  else if word = "subscription" then some .subscription
  else none

def operationKind : Parser OperationKind := do
  let start ← place
  let word ← expectName
  match operationKind? word with
  | some kind => return kind
  | none => failAt start (.unexpected (some (.name word)))

def shorthand : Parser Operation := do
  return { kind := .query, selections := some (← selectionSet maxLevels) }

def operation : Parser Operation := do
  let description ← description
  let kind ← operationKind
  let name ← match ← peek with
    | some (.name _) => some <$> expectName
    | _ => pure none
  let parameters ← optionalMany .parenthesisOpen .parenthesisClose variableDefinition
  let directives ← directives false maxLevels
  return ⟨kind, description, name, parameters, directives, some (← selectionSet maxLevels)⟩

def fragment : Parser Fragment := do
  let description ← description
  expectKeyword "fragment"
  let name ← fragmentName
  expectKeyword "on"
  let condition ← expectName
  let directives ← directives false maxLevels
  return ⟨description, name, [], condition, directives, some (← selectionSet maxLevels)⟩

end Parser

end QueryRegistry
