import QueryRegistry.Typename

/-! What asking for type names puts into a set of selections. It depends on the selections as they
stood before, and a set that has been asked once has nothing put into it again. -/

namespace QueryRegistry

namespace Selection

/-- Something is selected, but no field whose name, whatever it is labelled, begins with two
underscores. -/
def Untyped (selections : List Selection) : Prop :=
  selections ≠ [] ∧ ∀ label name arguments directives set,
    Selection.field label name arguments directives set ∈ selections → ¬ ['_', '_'] <+: name.toList

theorem isIntrospection_field (label : Option String) (name : String) (arguments : Arguments)
    (directives : List Directive) (set : Option (List Selection)) :
    (Selection.field label name arguments directives set).isIntrospection = true ↔
      ['_', '_'] <+: name.toList :=
  List.isPrefixOf_iff_prefix

theorem untyped_iff {selections : List Selection} :
    Untyped selections ↔ selections ≠ [] ∧ ∀ s ∈ selections, s.isIntrospection = false := by
  refine and_congr_right fun _ => ⟨fun h s hs => ?_, fun h label name arguments directives set hs => ?_⟩
  · cases s with
    | field label name arguments directives set =>
      rw [Bool.eq_false_iff, ne_eq, isIntrospection_field]
      exact h _ _ _ _ _ hs
    | spread => rfl
    | inline => rfl
  · rw [← isIntrospection_field label name arguments directives set, h _ hs]
    exact Bool.false_ne_true

instance (selections : List Selection) : Decidable (Untyped selections) :=
  decidable_of_iff _ untyped_iff.symm

/-- What is put behind the selections of a set, which may be that at the root of an operation. -/
def addition (root : Bool) (selections : List Selection) : List Selection :=
  if root = false ∧ Untyped selections then [.field none "__typename" [] [] none] else []

theorem addition_root (selections : List Selection) : addition true selections = [] :=
  if_neg (by simp)

theorem value_withTypenameEach (selections : List Selection) :
    (withTypenameEach selections).value = selections.map fun s => s.withTypename.value := by
  induction selections with
  | nil => rfl
  | cons selection rest ih => exact congrArg (_ :: ·) ih

theorem isIntrospection_withTypename (selection : Selection) :
    selection.withTypename.value.isIntrospection = selection.isIntrospection := by
  cases selection <;> rfl

theorem untyped_withTypename {selections : List Selection} :
    Untyped (selections.map fun s => s.withTypename.value) ↔ Untyped selections := by
  simp [untyped_iff, isIntrospection_withTypename]

/-- What has been put in below a set makes no difference to what is put into it. -/
theorem addition_withTypename (root : Bool) (selections : List Selection) :
    addition root (selections.map fun s => s.withTypename.value) = addition root selections := by
  simp only [addition, untyped_withTypename]

theorem value_askTypename (selections : List Selection) :
    (askTypename selections).value = selections ++ addition false selections := by
  have hu : (selections.isEmpty || selections.any isIntrospection) = true ↔ ¬ Untyped selections := by
    rw [untyped_iff]
    by_cases hs : selections = [] <;> simp [hs]
  rw [askTypename, addition]
  by_cases h : Untyped selections
  · rw [if_neg (fun hn => hu.mp hn h), if_pos ⟨rfl, h⟩]
    rfl
  · rw [if_pos (hu.mpr h), if_neg (fun hn => h hn.2), List.append_nil]
    rfl

theorem value_withTypenameSet (selections : List Selection) :
    (withTypenameSet (some selections)).value =
      some (selections.map (fun s => s.withTypename.value) ++ addition false selections) := by
  change some (askTypename (withTypenameEach selections).value).value = _
  rw [value_askTypename, value_withTypenameEach, addition_withTypename]

theorem value_withTypenameRoot (selections : List Selection) :
    (withTypenameRoot (some selections)).value =
      some (selections.map (fun s => s.withTypename.value) ++ addition true selections) := by
  rw [addition_root, List.append_nil, ← value_withTypenameEach]
  rfl

theorem addition_append_addition (selections : List Selection) :
    addition false (selections ++ addition false selections) = [] := by
  by_cases h : Untyped selections
  · have ha : addition false selections = [.field none "__typename" [] [] none] := if_pos ⟨rfl, h⟩
    refine if_neg fun hn => hn.2.2 none "__typename" [] [] none ?_ (by decide)
    rw [ha]
    exact List.mem_append_right _ List.mem_cons_self
  · have ha : addition false selections = [] := if_neg fun hn => h hn.2
    rw [ha, List.append_nil, ha]

theorem map_withTypename_addition (root : Bool) (selections : List Selection) :
    (addition root selections).map (fun s => s.withTypename.value) = addition root selections := by
  rw [addition]
  split <;> rfl

mutual

theorem withTypename_idem : ∀ selection : Selection,
    selection.withTypename.value.withTypename.value = selection.withTypename.value
  | .field label name arguments directives set =>
    congrArg (Selection.field label name arguments directives) (withTypenameSet_idem set)
  | .spread _ _ => rfl
  | .inline condition directives set =>
    congrArg (Selection.inline condition directives) (withTypenameSet_idem set)

theorem withTypenameSet_idem : ∀ set : Option (List Selection),
    (withTypenameSet (withTypenameSet set).value).value = (withTypenameSet set).value
  | none => rfl
  | some selections => by
    have hagain := addition_append_addition (selections.map fun s => s.withTypename.value)
    rw [addition_withTypename] at hagain
    rw [value_withTypenameSet, value_withTypenameSet, List.map_append,
      map_withTypename_idem selections, map_withTypename_addition, hagain, List.append_nil]

theorem map_withTypename_idem : ∀ selections : List Selection,
    (selections.map fun s => s.withTypename.value).map (fun s => s.withTypename.value) =
      selections.map fun s => s.withTypename.value
  | [] => rfl
  | selection :: rest => by
    rw [List.map_cons, List.map_cons, withTypename_idem selection, map_withTypename_idem rest]

end

theorem withTypenameRoot_idem (set : Option (List Selection)) :
    (withTypenameRoot (withTypenameRoot set).value).value = (withTypenameRoot set).value := by
  cases set with
  | none => rfl
  | some selections =>
    rw [value_withTypenameRoot, addition_root, List.append_nil, value_withTypenameRoot,
      addition_root, List.append_nil, map_withTypename_idem]

end Selection

theorem Operation.withTypename_idem (operation : Operation) :
    operation.withTypename.value.withTypename.value = operation.withTypename.value :=
  congrArg (fun set => { operation with selections := set })
    (Selection.withTypenameRoot_idem operation.selections)

theorem Fragment.withTypename_idem (fragment : Fragment) :
    fragment.withTypename.value.withTypename.value = fragment.withTypename.value :=
  congrArg (fun set => { fragment with selections := set })
    (Selection.withTypenameSet_idem fragment.selections)

theorem Definition.withTypename_idem (definition : Definition) :
    definition.withTypename.value.withTypename.value = definition.withTypename.value := by
  cases definition with
  | executable e =>
    cases e with
    | operation op => exact congrArg Definition.operation op.withTypename_idem
    | fragment f => exact congrArg Definition.fragment f.withTypename_idem
  | typeSystem kind => rfl

namespace Document

theorem value_withTypenameAll (definitions : List Definition) :
    (withTypenameAll definitions).value = definitions.map fun d => d.withTypename.value := by
  induction definitions with
  | nil => rfl
  | cons definition rest ih => exact congrArg (_ :: ·) ih

theorem definitions_normalized (document : Document) :
    document.normalized.definitions = document.definitions.map fun d => d.withTypename.value :=
  value_withTypenameAll document.definitions

/-- A document asks for its type names once and for all. -/
theorem normalized_idem (document : Document) : document.normalized.normalized = document.normalized := by
  obtain ⟨definitions⟩ := document
  refine congrArg Document.mk ?_
  change (withTypenameAll (withTypenameAll definitions).value).value = _
  rw [value_withTypenameAll, value_withTypenameAll, List.map_map]
  exact List.map_congr_left fun definition _ => definition.withTypename_idem

end Document

end QueryRegistry
