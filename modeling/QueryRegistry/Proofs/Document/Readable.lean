import QueryRegistry.Document.Parser.Selection
import QueryRegistry.Proofs.Document.Spelling
import QueryRegistry.Typename

/-! What reading yields. The syntax that reading can yield has the tokens given here for it, apart from
the word in front of a query that needs none. Its names are names, its numbers are spelled, its lists
hold what they must, and its brackets stand no deeper inside one another than is allowed. -/

namespace QueryRegistry

/-! ### Tokens of syntax -/

/-- Parts in brackets, which are left out with the last of the parts. -/
def enclosed (opening close : Punctuator) (parts : List (List Token)) : List Token :=
  if parts.isEmpty then [] else .punctuator opening :: (parts.flatten ++ [.punctuator close])

def describedBy (description : Option Quotation) : List Token :=
  (description.map Token.quoted).toList

namespace Value

mutual

def tokens : Value → List Token
  | .variable name => [.punctuator .dollar, .name name]
  | .int digits => [.int digits]
  | .float digits => [.float digits]
  | .quoted quotation => [.quoted quotation]
  | .boolean true => [.name "true"]
  | .boolean false => [.name "false"]
  | .null => [.name "null"]
  | .enum name => [.name name]
  | .list items => .punctuator .bracketOpen :: (tokensOfItems items ++ [.punctuator .bracketClose])
  | .object fields => .punctuator .braceOpen :: (tokensOfFields fields ++ [.punctuator .braceClose])

def tokensOfItems : List Value → List Token
  | [] => []
  | item :: rest => tokens item ++ tokensOfItems rest

def tokensOfFields : List (String × Value) → List Token
  | [] => []
  | (name, value) :: rest =>
    (.name name :: .punctuator .colon :: tokens value) ++ tokensOfFields rest

end

end Value

def argumentTokens (argument : String × Value) : List Token :=
  .name argument.1 :: .punctuator .colon :: argument.2.tokens

def argumentsTokens (arguments : Arguments) : List Token :=
  enclosed .parenthesisOpen .parenthesisClose (arguments.map argumentTokens)

theorem Value.tokensOfItems_eq (items : List Value) : tokensOfItems items = items.flatMap tokens := by
  induction items with
  | nil => rfl
  | cons item rest ih => rw [tokensOfItems, ih, List.flatMap_cons]

theorem Value.tokensOfFields_eq (fields : List (String × Value)) :
    tokensOfFields fields = fields.flatMap argumentTokens := by
  induction fields with
  | nil => rfl
  | cons field rest ih => rw [tokensOfFields, ih, List.flatMap_cons, argumentTokens]

def Directive.tokens (directive : Directive) : List Token :=
  .punctuator .atSign :: .name directive.name :: argumentsTokens directive.arguments

def directivesTokens (directives : List Directive) : List Token :=
  directives.flatMap Directive.tokens

def TypeReference.tokens : TypeReference → List Token
  | .named name => [.name name]
  | .list item => .punctuator .bracketOpen :: (item.tokens ++ [.punctuator .bracketClose])
  | .nonNull type => type.tokens ++ [.punctuator .bang]

def defaultTokens : Option Value → List Token
  | none => []
  | some value => .punctuator .equals :: value.tokens

def VariableDefinition.tokens (definition : VariableDefinition) : List Token :=
  describedBy definition.description ++
    .punctuator .dollar :: .name definition.name :: .punctuator .colon ::
      (definition.type.tokens ++ defaultTokens definition.default ++
        directivesTokens definition.directives)

namespace Selection

def labelTokens : Option String → List Token
  | none => []
  | some label => [.name label, .punctuator .colon]

def conditionTokens : Option String → List Token
  | none => []
  | some condition => [.name "on", .name condition]

mutual

def tokens : Selection → List Token
  | .field label name arguments directives selections =>
    labelTokens label ++ .name name ::
      (argumentsTokens arguments ++ directivesTokens directives ++ tokensOfSet selections)
  | .spread name directives => .punctuator .dots :: .name name :: directivesTokens directives
  | .inline condition directives selections =>
    .punctuator .dots ::
      (conditionTokens condition ++ directivesTokens directives ++ tokensOfSet selections)

def tokensOfSet : Option (List Selection) → List Token
  | none => []
  | some selections =>
    .punctuator .braceOpen :: (tokensOfList selections ++ [.punctuator .braceClose])

def tokensOfList : List Selection → List Token
  | [] => []
  | selection :: rest => tokens selection ++ tokensOfList rest

end

theorem tokensOfList_eq (selections : List Selection) :
    tokensOfList selections = selections.flatMap tokens := by
  induction selections with
  | nil => rfl
  | cons selection rest ih => rw [tokensOfList, ih, List.flatMap_cons]

end Selection

def parametersTokens (parameters : List VariableDefinition) : List Token :=
  enclosed .parenthesisOpen .parenthesisClose (parameters.map VariableDefinition.tokens)

namespace Operation

def headingTokens (operation : Operation) : List Token :=
  describedBy operation.description ++ .name operation.kind.word ::
    ((operation.name.map Token.name).toList ++ parametersTokens operation.parameters ++
      directivesTokens operation.directives)

def tokens (operation : Operation) : List Token :=
  if operation.headingTokens = [.name "query"] then Selection.tokensOfSet operation.selections
  else operation.headingTokens ++ Selection.tokensOfSet operation.selections

end Operation

def Fragment.tokens (fragment : Fragment) : List Token :=
  describedBy fragment.description ++
    .name "fragment" :: .name fragment.name :: .name "on" :: .name fragment.condition ::
      (directivesTokens fragment.directives ++ Selection.tokensOfSet fragment.selections)

def Executable.tokens : Executable → List Token
  | operation op => op.tokens
  | fragment f => f.tokens

theorem enclosed_eq_nil {opening close : Punctuator} {parts : List (List Token)}
    (h : enclosed opening close parts = []) : parts = [] := by
  cases parts with
  | nil => rfl
  | cons part parts => simp [enclosed] at h

/-- The heading is a bare word only if there is nothing but the selections. -/
theorem Operation.eq_of_headingTokens {operation : Operation}
    (h : operation.headingTokens = [.name "query"]) :
    operation = { kind := .query, selections := operation.selections } := by
  obtain ⟨kind, description, name, parameters, directives, selections⟩ := operation
  cases description with
  | some quotation => simp [headingTokens, describedBy] at h
  | none =>
    simp only [headingTokens, describedBy, Option.map_none, Option.toList_none, List.nil_append,
      List.cons.injEq, Token.name.injEq, List.append_eq_nil_iff] at h
    obtain ⟨hkind, ⟨hname, hparameters⟩, hdirectives⟩ := h
    have hp : parameters = [] := List.map_eq_nil_iff.mp (enclosed_eq_nil hparameters)
    cases name with
    | some name => simp at hname
    | none =>
      cases directives with
      | cons directive rest => simp [directivesTokens, Directive.tokens] at hdirectives
      | nil =>
        subst hp
        cases kind with
        | query => rfl
        | mutation => simp [OperationKind.word] at hkind
        | subscription => simp [OperationKind.word] at hkind

/-! ### Syntax that can be read -/

/-- A value that stands at a place with so many levels left. -/
inductive Value.Readable (constant : Bool) : Nat → Value → Prop where
  | variableName {levels : Nat} {name : String} (hn : IsName name.toList) (hc : constant = false) :
    Readable constant levels (.variable name)
  | int {levels : Nat} {digits : String} (h : (Token.int digits).Sound) :
    Readable constant levels (.int digits)
  | float {levels : Nat} {digits : String} (h : (Token.float digits).Sound) :
    Readable constant levels (.float digits)
  | quoted {levels : Nat} {quotation : Quotation} (h : (Token.quoted quotation).Sound) :
    Readable constant levels (.quoted quotation)
  | boolean {levels : Nat} (value : Bool) : Readable constant levels (.boolean value)
  | null {levels : Nat} : Readable constant levels .null
  | enum {levels : Nat} {name : String} (hn : IsName name.toList)
    (he : Parser.namedValue name = .enum name) : Readable constant levels (.enum name)
  | list {inner : Nat} {items : List Value} (h : ∀ item ∈ items, Readable constant inner item) :
    Readable constant (inner + 1) (.list items)
  | object {inner : Nat} {fields : List (String × Value)}
    (hn : ∀ field ∈ fields, IsName field.1.toList)
    (h : ∀ field ∈ fields, Readable constant inner field.2) :
    Readable constant (inner + 1) (.object fields)

structure ArgumentReadable (constant : Bool) (levels : Nat) (argument : String × Value) : Prop where
  name : IsName argument.1.toList
  value : argument.2.Readable constant levels

structure Directive.Readable (constant : Bool) (levels : Nat) (directive : Directive) : Prop where
  name : IsName directive.name.toList
  arguments : ∀ argument ∈ directive.arguments, ArgumentReadable constant levels argument

/-- Only what may be null is made non-null. -/
inductive TypeReference.Readable : Nat → TypeReference → Prop where
  | named {levels : Nat} {name : String} (hn : IsName name.toList) : Readable levels (.named name)
  | list {inner : Nat} {item : TypeReference} (h : Readable inner item) :
    Readable (inner + 1) (.list item)
  | nonNull {levels : Nat} {type : TypeReference} (h : Readable levels type)
    (hb : ∀ inner, type ≠ .nonNull inner) : Readable levels (.nonNull type)

def DescriptionReadable (description : Option Quotation) : Prop :=
  ∀ quotation ∈ description, (Token.quoted quotation).Sound

structure VariableDefinition.Readable (definition : VariableDefinition) : Prop where
  description : DescriptionReadable definition.description
  name : IsName definition.name.toList
  type : definition.type.Readable Parser.maxLevels
  default : ∀ value ∈ definition.default, value.Readable true Parser.maxLevels
  directives : ∀ directive ∈ definition.directives, directive.Readable true Parser.maxLevels

/-- A selection that stands at a place with so many levels left. Those in a set below it have one level
less, and none of its sets is empty. -/
inductive Selection.Readable : Nat → Selection → Prop where
  | leaf {levels : Nat} {label : Option String} {name : String} {arguments : Arguments}
    {directives : List Directive} (hl : ∀ l ∈ label, IsName l.toList) (hn : IsName name.toList)
    (ha : ∀ argument ∈ arguments, ArgumentReadable false levels argument)
    (hd : ∀ directive ∈ directives, directive.Readable false levels) :
    Readable levels (.field label name arguments directives none)
  | field {inner : Nat} {label : Option String} {name : String} {arguments : Arguments}
    {directives : List Directive} {selections : List Selection}
    (hl : ∀ l ∈ label, IsName l.toList) (hn : IsName name.toList)
    (ha : ∀ argument ∈ arguments, ArgumentReadable false (inner + 1) argument)
    (hd : ∀ directive ∈ directives, directive.Readable false (inner + 1))
    (hne : selections ≠ []) (hs : ∀ selection ∈ selections, Readable inner selection) :
    Readable (inner + 1) (.field label name arguments directives (some selections))
  | spread {levels : Nat} {name : String} {directives : List Directive}
    (hn : IsName name.toList) (hon : name ≠ "on")
    (hd : ∀ directive ∈ directives, directive.Readable false levels) :
    Readable levels (.spread name directives)
  | inline {inner : Nat} {condition : Option String} {directives : List Directive}
    {selections : List Selection} (hc : ∀ c ∈ condition, IsName c.toList)
    (hd : ∀ directive ∈ directives, directive.Readable false (inner + 1))
    (hne : selections ≠ []) (hs : ∀ selection ∈ selections, Readable inner selection) :
    Readable (inner + 1) (.inline condition directives (some selections))

def SetReadable (selections : SelectionSet) : Prop :=
  ∃ list, selections = some list ∧ list ≠ [] ∧
    ∃ inner, Parser.maxLevels = inner + 1 ∧ ∀ selection ∈ list, selection.Readable inner

structure Operation.Readable (operation : Operation) : Prop where
  description : DescriptionReadable operation.description
  name : ∀ name ∈ operation.name, IsName name.toList
  parameters : ∀ parameter ∈ operation.parameters, parameter.Readable
  directives : ∀ directive ∈ operation.directives, directive.Readable false Parser.maxLevels
  selections : SetReadable operation.selections

structure Fragment.Readable (fragment : Fragment) : Prop where
  description : DescriptionReadable fragment.description
  name : IsName fragment.name.toList
  notOn : fragment.name ≠ "on"
  parameters : fragment.parameters = []
  condition : IsName fragment.condition.toList
  directives : ∀ directive ∈ fragment.directives, directive.Readable false Parser.maxLevels
  selections : SetReadable fragment.selections

def Executable.Readable : Executable → Prop
  | operation op => op.Readable
  | fragment f => f.Readable

theorem Operation.Readable.tokens_ne_nil {operation : Operation} (h : operation.Readable) :
    operation.tokens ≠ [] := by
  obtain ⟨list, hs, -⟩ := h.selections
  rw [Operation.tokens, hs, Selection.tokensOfSet]
  split <;> simp

theorem Executable.Readable.tokens_ne_nil {definition : Executable} (h : definition.Readable) :
    definition.tokens ≠ [] := by
  cases definition with
  | operation op => exact Operation.Readable.tokens_ne_nil h
  | fragment f => simp [Executable.tokens, Fragment.tokens]

end QueryRegistry
