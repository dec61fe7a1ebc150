import QueryRegistry.Document.Value

/-! Documents: operations and fragments with their trees of selections, and the definitions of a
type system, of which only the kind matters here. A selection set that is absent and one that is
empty are different things, although nothing can be selected through either. -/

namespace QueryRegistry

inductive Selection where
  | field (label : Option String) (name : String) (arguments : Arguments)
      (directives : List Directive) (selections : Option (List Selection))
  | spread (name : String) (directives : List Directive)
  | inline (condition : Option String) (directives : List Directive)
      (selections : Option (List Selection))
  deriving BEq, Repr, Inhabited

abbrev SelectionSet := Option (List Selection)

inductive OperationKind where
  | query
  | mutation
  | subscription
  deriving DecidableEq, Repr, Inhabited

structure Operation where
  kind : OperationKind := .query
  description : Option Quotation := none
  name : Option String := none
  parameters : List VariableDefinition := []
  directives : List Directive := []
  selections : SelectionSet := none
  deriving BEq, Repr, Inhabited

structure Fragment where
  description : Option Quotation := none
  name : String
  parameters : List VariableDefinition := []
  condition : String
  directives : List Directive := []
  selections : SelectionSet := none
  deriving BEq, Repr, Inhabited

/-- A definition that can be asked for or spread, and so has selections. -/
inductive Executable where
  | operation (operation : Operation)
  | fragment (fragment : Fragment)
  deriving BEq, Repr, Inhabited

inductive TypeSystemKind where
  | schema
  | scalar
  | object
  | interface
  | union
  | enum
  | inputObject
  | directive
  | schemaExtension
  | scalarExtension
  | objectExtension
  | interfaceExtension
  | unionExtension
  | enumExtension
  | inputObjectExtension
  deriving DecidableEq, Repr, Inhabited

inductive Definition where
  | executable (definition : Executable)
  | typeSystem (kind : TypeSystemKind)
  deriving BEq, Repr, Inhabited

structure Document where
  definitions : List Definition := []
  deriving BEq, Repr, Inhabited

namespace Definition

@[match_pattern]
abbrev operation (op : Operation) : Definition := .executable (.operation op)

@[match_pattern]
abbrev fragment (f : Fragment) : Definition := .executable (.fragment f)

def executable? : Definition → Option Executable
  | executable e => some e
  | typeSystem _ => none

def operation? : Definition → Option Operation
  | operation op => some op
  | _ => none

def fragment? : Definition → Option Fragment
  | fragment f => some f
  | _ => none

end Definition

namespace Executable

def selections : Executable → SelectionSet
  | operation op => op.selections
  | fragment f => f.selections

def fragmentName? : Executable → Option String
  | operation _ => none
  | fragment f => some f.name

end Executable

namespace Document

def executables (document : Document) : List Executable :=
  document.definitions.filterMap Definition.executable?

def operations (document : Document) : List Operation :=
  document.definitions.filterMap Definition.operation?

def fragments (document : Document) : List Fragment :=
  document.definitions.filterMap Definition.fragment?

end Document

end QueryRegistry
