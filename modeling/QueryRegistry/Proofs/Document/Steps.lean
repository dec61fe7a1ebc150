import QueryRegistry.Document.Parser

/-! The readers of a document step by step. A reader that has several ways to go on in the middle of its
work is put together here from a reader for each part, so that each part can be looked at alone. -/

namespace QueryRegistry

namespace Parser

variable {α β : Type}

theorem bind_ok {p : Parser α} {f : α → Parser β} {tokens later : List Token} {a : α}
    (h : p tokens = .ok (a, later)) : (p >>= f) tokens = f a later := by
  change (p tokens >>= fun x => f x.1 x.2) = _
  rw [h]
  rfl

theorem map_ok {p : Parser α} {f : α → β} {tokens later : List Token} {a : α}
    (h : p tokens = .ok (a, later)) : (f <$> p) tokens = .ok (f a, later) := by
  change (p tokens >>= fun x => _) = _
  rw [h]
  rfl

theorem ite_bind (b : Bool) (p q : Parser α) (f : α → Parser β) :
    (if b = true then p else q) >>= f = if b = true then p >>= f else q >>= f := by
  cases b <;> rfl

theorem pure_apply (a : α) (tokens : List Token) : (pure a : Parser α) tokens = .ok (a, tokens) :=
  rfl

theorem peek_apply (tokens : List Token) : peek tokens = .ok (tokens.head?, tokens) := rfl

theorem place_apply (tokens : List Token) : place tokens = .ok (tokens.length, tokens) := rfl

theorem atPunctuator_apply (p : Punctuator) (tokens : List Token) :
    atPunctuator p tokens = .ok (decide (tokens.head? = some (.punctuator p)), tokens) := rfl

/-- A type as it stands in front of an exclamation mark. -/
def bareType (levels : Nat) : Parser TypeReference := do
  if ← skipPunctuator .bracketOpen then
    match levels with
    | 0 => fail .nestedTooDeeply
    | inner + 1 => do
      let item ← typeReference inner
      expectPunctuator .bracketClose
      return .list item
  else TypeReference.named <$> expectName

def markedType (type : TypeReference) : Parser TypeReference := do
  if ← skipPunctuator .bang then return .nonNull type else return type

theorem typeReference_eq (levels : Nat) :
    typeReference levels = bareType levels >>= markedType := by
  rw [typeReference.eq_def, bareType.eq_def, bind_assoc]
  congr
  funext opened
  cases opened with
  | false => rfl
  | true =>
    cases levels with
    | zero => rfl
    | succ inner => simp [markedType]

def labelledName (first : String) : Parser (Option String × String) := do
  if ← skipPunctuator .colon then return (some first, ← expectName) else return (none, first)

def optionalSet (set : Parser (List Selection)) : Parser SelectionSet := do
  if ← atPunctuator .braceOpen then some <$> set else return none

def fieldSelection (set : Parser (List Selection)) (levels : Nat) : Parser Selection := do
  let first ← expectName
  let named ← labelledName first
  let arguments ← arguments false levels
  let directives ← directives false levels
  return .field named.1 named.2 arguments directives (← optionalSet set)

def inlineSelection (set : Parser (List Selection)) (levels : Nat) (condition : Option String) :
    Parser Selection := do
  let directives ← directives false levels
  return .inline condition directives (some (← set))

def spreadSelection (levels : Nat) : Parser Selection := do
  let name ← fragmentName
  return .spread name (← directives false levels)

def dottedSelection (set : Parser (List Selection)) (levels : Nat) : Parser Selection := do
  if ← skipKeyword "on" then inlineSelection set levels (some (← expectName))
  else
    match ← peek with
    | some (.name _) => spreadSelection levels
    | _ => inlineSelection set levels none

theorem selection_eq (set : Parser (List Selection)) (levels : Nat) :
    selection set levels = (do
      if ← skipPunctuator .dots then dottedSelection set levels
      else fieldSelection set levels) := by
  rw [selection]
  congr
  funext dotted
  cases dotted with
  | true => rfl
  | false =>
    simp only [fieldSelection, labelledName, optionalSet, bind_assoc, pure_bind, ite_bind]
    rfl

def optionalName : Parser (Option String) := do
  match ← peek with
  | some (.name _) => some <$> expectName
  | _ => return none

theorem operation_eq : operation = (do
    let description ← description
    let kind ← operationKind
    let name ← optionalName
    let parameters ← optionalMany .parenthesisOpen .parenthesisClose variableDefinition
    let directives ← directives false maxLevels
    return ⟨kind, description, name, parameters, directives, some (← selectionSet maxLevels)⟩) := by
  rw [operation]
  simp only [optionalName, bind_assoc]
  congr
  funext description
  congr
  funext kind
  congr
  funext found
  rcases found with _ | token
  · rfl
  · cases token <;> rfl

end Parser

end QueryRegistry
