/-! Values that arguments, variables and directives hold, and the types that variables have. The
digits of a number are kept as they were written, so that a value can be written out unchanged. -/

namespace QueryRegistry

/-- A quoted text, written on one line or, when `block` holds, between triple quotes. -/
structure Quotation where
  text : String
  block : Bool := false
  deriving DecidableEq, Repr, Inhabited

inductive Value where
  | variable (name : String)
  | int (digits : String)
  | float (digits : String)
  | quoted (quotation : Quotation)
  | boolean (value : Bool)
  | null
  | enum (name : String)
  | list (items : List Value)
  | object (fields : List (String × Value))
  deriving BEq, Repr, Inhabited

abbrev Arguments := List (String × Value)

structure Directive where
  name : String
  arguments : Arguments := []
  deriving BEq, Repr, Inhabited

inductive TypeReference where
  | named (name : String)
  | list (item : TypeReference)
  | nonNull (type : TypeReference)
  deriving DecidableEq, Repr, Inhabited

structure VariableDefinition where
  description : Option Quotation := none
  name : String
  type : TypeReference
  default : Option Value := none
  directives : List Directive := []
  deriving BEq, Repr, Inhabited

end QueryRegistry
