import QueryRegistry.Document.Parser.Selection

/-! Reading the definitions and extensions of a type system. They are checked and passed over: a
reader here only says whether a part was there. -/

namespace QueryRegistry

namespace Parser

def constantDirectives : Parser Bool := do
  return !(← directives true maxLevels).isEmpty

def inputValue : Parser Unit := do
  let _ ← description
  let _ ← expectName
  expectPunctuator .colon
  let _ ← typeReference maxLevels
  let _ ← constantDefault
  let _ ← constantDirectives

def inputValues (opening close : Punctuator) : Parser Bool := do
  return !(← optionalMany opening close inputValue).isEmpty

def fieldDefinition : Parser Unit := do
  let _ ← description
  let _ ← expectName
  let _ ← inputValues .parenthesisOpen .parenthesisClose
  expectPunctuator .colon
  let _ ← typeReference maxLevels
  let _ ← constantDirectives

def fieldDefinitions : Parser Bool := do
  return !(← optionalMany .braceOpen .braceClose fieldDefinition).isEmpty

def interfaces : Parser Bool := do
  if ← skipKeyword "implements" then
    let _ ← separated .ampersand expectName
    return true
  else return false

def members : Parser Bool := do
  if ← skipPunctuator .equals then
    let _ ← separated .pipe expectName
    return true
  else return false

/-- The words that are values of their own are no names of values. -/
def enumValue : Parser Unit := do
  let _ ← description
  match ← peek with
  | some token =>
    if ["true", "false", "null"].any (some · == token.words?) then
      fail (.reservedEnumValue token)
    else
      let _ ← expectName
      let _ ← constantDirectives
  | none => do let _ ← expectName

def enumValues : Parser Bool := do
  return !(← optionalMany .braceOpen .braceClose enumValue).isEmpty

def rootOperation : Parser Unit := do
  let _ ← operationKind
  expectPunctuator .colon
  let _ ← expectName

def directiveLocations : List String :=
  ["QUERY", "MUTATION", "SUBSCRIPTION", "FIELD", "FRAGMENT_DEFINITION", "FRAGMENT_SPREAD",
    "INLINE_FRAGMENT", "VARIABLE_DEFINITION", "SCHEMA", "SCALAR", "OBJECT", "FIELD_DEFINITION",
    "ARGUMENT_DEFINITION", "INTERFACE", "UNION", "ENUM", "ENUM_VALUE", "INPUT_OBJECT",
    "INPUT_FIELD_DEFINITION", "DIRECTIVE_DEFINITION"]

def directiveLocation : Parser Unit := do
  let start ← place
  let name ← expectName
  unless directiveLocations.contains name do
    failAt start (.unexpected (some (.name name)))

def schemaDefinition : Parser TypeSystemKind := do
  let _ ← constantDirectives
  let _ ← many .braceOpen .braceClose rootOperation
  return .schema

def scalarDefinition : Parser TypeSystemKind := do
  let _ ← expectName
  let _ ← constantDirectives
  return .scalar

/-- What object types and interfaces are made of. -/
def fieldsDefinition (kind : TypeSystemKind) : Parser TypeSystemKind := do
  let _ ← expectName
  let _ ← interfaces
  let _ ← constantDirectives
  let _ ← fieldDefinitions
  return kind

def unionDefinition : Parser TypeSystemKind := do
  let _ ← expectName
  let _ ← constantDirectives
  let _ ← members
  return .union

def enumDefinition : Parser TypeSystemKind := do
  let _ ← expectName
  let _ ← constantDirectives
  let _ ← enumValues
  return .enum

def inputDefinition : Parser TypeSystemKind := do
  let _ ← expectName
  let _ ← constantDirectives
  let _ ← inputValues .braceOpen .braceClose
  return .inputObject

def directiveDefinition : Parser TypeSystemKind := do
  expectPunctuator .atSign
  let _ ← expectName
  let _ ← inputValues .parenthesisOpen .parenthesisClose
  let _ ← skipKeyword "repeatable"
  expectKeyword "on"
  let _ ← separated .pipe directiveLocation
  return .directive

def typeSystemDefinition? (word : String) : Option (Parser TypeSystemKind) :=
  [("schema", schemaDefinition), ("scalar", scalarDefinition),
    ("type", fieldsDefinition .object), ("interface", fieldsDefinition .interface),
    ("union", unionDefinition), ("enum", enumDefinition), ("input", inputDefinition),
    ("directive", directiveDefinition)].lookup word

/-- An extension that adds nothing is a fault. -/
def extending (kind : TypeSystemKind) (parts : List (Parser Bool)) : Parser TypeSystemKind := do
  let found ← parts.mapM id
  if found.any id then return kind else unexpected

def schemaExtension : Parser TypeSystemKind :=
  extending .schemaExtension [constantDirectives, do
    return !(← optionalMany .braceOpen .braceClose rootOperation).isEmpty]

def namedExtension (kind : TypeSystemKind) (parts : List (Parser Bool)) :
    Parser TypeSystemKind := do
  let _ ← expectName
  extending kind parts

def typeSystemExtension? (word : String) : Option (Parser TypeSystemKind) :=
  [("schema", schemaExtension),
    ("scalar", namedExtension .scalarExtension [constantDirectives]),
    ("type", namedExtension .objectExtension
      [interfaces, constantDirectives, fieldDefinitions]),
    ("interface", namedExtension .interfaceExtension
      [interfaces, constantDirectives, fieldDefinitions]),
    ("union", namedExtension .unionExtension [constantDirectives, members]),
    ("enum", namedExtension .enumExtension [constantDirectives, enumValues]),
    ("input", namedExtension .inputObjectExtension
      [constantDirectives, inputValues .braceOpen .braceClose])].lookup word

def typeSystemExtension : Parser TypeSystemKind := do
  let start ← place
  match ← lookAhead with
  | some (.name word) =>
    match typeSystemExtension? word with
    | some body => do
      advance
      advance
      body
    | none => failAt (start - 1) (.unexpected (some (.name word)))
  | found => failAt (start - 1) (.unexpected found)

end Parser

end QueryRegistry
