import QueryRegistry.Document.Basic

/-! Every selection set below the root of an operation asks for the name of the type it selects from,
by a field put behind its last selection. A set that already asks for something whose name begins
with two underscores is left alone, and so is an empty one. -/

namespace QueryRegistry

def typenameField : Selection := .field none "__typename" [] [] none

namespace Selection

/-- Whether the selection is a field with a name of the kind that is kept for questions about the
types themselves. What the field is labelled does not matter. -/
def isIntrospection : Selection → Bool
  | .field _ name _ _ _ => ['_', '_'].isPrefixOf name.toList
  | _ => false

end Selection

/-- A value after a pass over it, and whether the pass added anything. -/
structure Revised (α : Type) where
  value : α
  changed : Bool
  deriving Repr

namespace Revised

variable {α β : Type}

def same (value : α) : Revised α := ⟨value, false⟩

def map (f : α → β) (r : Revised α) : Revised β := ⟨f r.value, r.changed⟩

def andThen (r : Revised α) (f : α → Revised β) : Revised β :=
  ⟨(f r.value).value, r.changed || (f r.value).changed⟩

def cons (head : Revised α) (tail : Revised (List α)) : Revised (List α) :=
  ⟨head.value :: tail.value, head.changed || tail.changed⟩

end Revised

namespace Selection

/-- Asks for the type of what the selections select from. -/
def askTypename (selections : List Selection) : Revised (List Selection) :=
  if selections.isEmpty || selections.any isIntrospection then .same selections
  else ⟨selections ++ [typenameField], true⟩

mutual

def withTypename : Selection → Revised Selection
  | .field label name arguments directives selections =>
    (withTypenameSet selections).map (.field label name arguments directives ·)
  | .spread name directives => .same (.spread name directives)
  | .inline condition directives selections =>
    (withTypenameSet selections).map (.inline condition directives ·)

def withTypenameSet : Option (List Selection) → Revised (Option (List Selection))
  | none => .same none
  | some selections => ((withTypenameEach selections).andThen askTypename).map some

def withTypenameEach : List Selection → Revised (List Selection)
  | [] => .same []
  | selection :: rest => (withTypename selection).cons (withTypenameEach rest)

end

/-- The selections at the root of an operation select from a type that is known. -/
def withTypenameRoot : Option (List Selection) → Revised (Option (List Selection))
  | none => .same none
  | some selections => (withTypenameEach selections).map some

end Selection

def Operation.withTypename (operation : Operation) : Revised Operation :=
  (Selection.withTypenameRoot operation.selections).map ({ operation with selections := · })

def Fragment.withTypename (fragment : Fragment) : Revised Fragment :=
  (Selection.withTypenameSet fragment.selections).map ({ fragment with selections := · })

def Executable.withTypename : Executable → Revised Executable
  | operation op => op.withTypename.map .operation
  | fragment f => f.withTypename.map .fragment

def Definition.withTypename : Definition → Revised Definition
  | executable e => e.withTypename.map .executable
  | typeSystem kind => .same (.typeSystem kind)

namespace Document

def withTypenameAll : List Definition → Revised (List Definition)
  | [] => .same []
  | definition :: rest => definition.withTypename.cons (withTypenameAll rest)

def withTypename (document : Document) : Revised Document :=
  (withTypenameAll document.definitions).map (⟨·⟩)

def normalized (document : Document) : Document := document.withTypename.value

end Document

end QueryRegistry
