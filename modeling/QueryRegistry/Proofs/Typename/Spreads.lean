import Mathlib.Data.List.Basic
import QueryRegistry.Fragment.Spreads
import QueryRegistry.Proofs.Typename.Addition

/-! Asking for type names changes neither what is spread nor what things are called: a definition
spreads the same names in the same order as before, and a document has the same operations and
fragments, each asked for its type names. -/

namespace QueryRegistry

namespace Selection

theorem spreadsOfList_append (xs ys : List Selection) :
    spreadsOfList (xs ++ ys) = spreadsOfList xs ++ spreadsOfList ys := by
  induction xs with
  | nil => rfl
  | cons x xs ih => rw [List.cons_append, spreadsOfList, ih, spreadsOfList, List.append_assoc]

theorem spreadsOfList_askTypename (selections : List Selection) :
    spreadsOfList (askTypename selections).value = spreadsOfList selections := by
  unfold askTypename
  split
  · rfl
  · rw [spreadsOfList_append]
    exact List.append_nil _

mutual

theorem spreads_withTypename : ∀ s : Selection, s.withTypename.value.spreads = s.spreads
  | .field _ _ _ _ selections => spreadsOfSet_withTypenameSet selections
  | .spread _ _ => rfl
  | .inline _ _ selections => spreadsOfSet_withTypenameSet selections

theorem spreadsOfSet_withTypenameSet : ∀ set : Option (List Selection),
    spreadsOfSet (withTypenameSet set).value = spreadsOfSet set
  | none => rfl
  | some selections =>
    (spreadsOfList_askTypename _).trans (spreadsOfList_withTypenameEach selections)

theorem spreadsOfList_withTypenameEach : ∀ selections : List Selection,
    spreadsOfList (withTypenameEach selections).value = spreadsOfList selections
  | [] => rfl
  | selection :: rest =>
    congrArg₂ (· ++ ·) (spreads_withTypename selection) (spreadsOfList_withTypenameEach rest)

end

theorem spreadsOfSet_withTypenameRoot (set : Option (List Selection)) :
    spreadsOfSet (withTypenameRoot set).value = spreadsOfSet set := by
  cases set with
  | none => rfl
  | some selections => exact spreadsOfList_withTypenameEach selections

end Selection

theorem Fragment.spreads_withTypename (fragment : Fragment) :
    fragment.withTypename.value.spreads = fragment.spreads :=
  Selection.spreadsOfSet_withTypenameSet fragment.selections

theorem Fragment.name_withTypename (fragment : Fragment) :
    fragment.withTypename.value.name = fragment.name := rfl

theorem Operation.name_withTypename (operation : Operation) :
    operation.withTypename.value.name = operation.name := rfl

theorem Executable.withTypename_operation (op : Operation) :
    (Executable.operation op).withTypename.value = .operation op.withTypename.value := rfl

theorem Executable.withTypename_fragment (f : Fragment) :
    (Executable.fragment f).withTypename.value = .fragment f.withTypename.value := rfl

theorem Executable.spreads_withTypename (definition : Executable) :
    definition.withTypename.value.spreads = definition.spreads := by
  cases definition with
  | operation op => exact Selection.spreadsOfSet_withTypenameRoot op.selections
  | fragment f => exact f.spreads_withTypename

theorem Executable.fragmentName?_withTypename (definition : Executable) :
    definition.withTypename.value.fragmentName? = definition.fragmentName? := by
  cases definition <;> rfl

theorem Definition.operation?_withTypename (definition : Definition) :
    definition.withTypename.value.operation? =
      definition.operation?.map fun op => op.withTypename.value := by
  cases definition with
  | executable e => cases e <;> rfl
  | typeSystem kind => rfl

theorem Definition.fragment?_withTypename (definition : Definition) :
    definition.withTypename.value.fragment? =
      definition.fragment?.map fun f => f.withTypename.value := by
  cases definition with
  | executable e => cases e <;> rfl
  | typeSystem kind => rfl

namespace Document

theorem operations_normalized (document : Document) :
    document.normalized.operations = document.operations.map fun op => op.withTypename.value := by
  rw [operations, definitions_normalized, List.filterMap_map, operations, List.map_filterMap]
  exact List.filterMap_congr fun definition _ => definition.operation?_withTypename

theorem fragments_normalized (document : Document) :
    document.normalized.fragments = document.fragments.map fun f => f.withTypename.value := by
  rw [fragments, definitions_normalized, List.filterMap_map, fragments, List.map_filterMap]
  exact List.filterMap_congr fun definition _ => definition.fragment?_withTypename

end Document

end QueryRegistry
