import QueryRegistry.Proofs.Fragment.LastDefinition
import QueryRegistry.Proofs.Table.Repetition

/-! What an index is made of and what is noted on the way. Of all that the sources hold the fragments
alone count, in the order in which they are defined; and a note is made each time that a name is defined
again. -/

namespace QueryRegistry

def redefinedNames (fragments : List Fragment) : List String :=
  ((markRepeats Fragment.name fragments).filter Prod.snd).map fun marked => marked.1.name

namespace FragmentIndex

theorem definedFragments_map_fragment (fragments : List Fragment) :
    definedFragments (fragments.map .fragment) = fragments := by
  induction fragments with
  | nil => rfl
  | cons fragment rest ih => exact congrArg (fragment :: ·) ih

theorem log_addFragment (index : FragmentIndex) (fragment : Fragment) :
    (addFragment index fragment).log =
      if index.contains fragment.name then [.redefined fragment.name] else [] := by
  change (add index (.fragment fragment)).log = _
  rw [add]
  simp only [Definition.fragment?]
  split <;> rfl

theorem collects_ofFragments (fragments : List Fragment) :
    (ofFragments fragments).Collects Fragment.name id fragments :=
  Table.collects_ofList Fragment.name id fragments

theorem redefinedNames_concat (fragments : List Fragment) (fragment : Fragment) :
    redefinedNames (fragments ++ [fragment]) = redefinedNames fragments ++
      if fragment.name ∈ fragments.map Fragment.name then [fragment.name] else [] := by
  rw [redefinedNames, markRepeats_concat, List.filter_append, List.map_append, ← redefinedNames]
  split
  next h => simp [h]
  next h => simp [h]

theorem log_foldlM_addFragment (fragments : List Fragment) :
    (fragments.foldlM addFragment Table.empty).log =
      (redefinedNames fragments).map .redefined := by
  induction fragments using List.reverseRecOn with
  | nil => rfl
  | append_singleton fragments fragment ih =>
    have hc : (ofFragments fragments).contains fragment.name = true ↔
        fragment.name ∈ fragments.map Fragment.name := by
      rw [Table.contains_iff, (collects_ofFragments fragments).order, List.mem_eraseDups]
    rw [List.foldlM_append, Logged.log_bind, ih, value_foldlM_empty, List.foldlM_cons,
      Logged.log_bind, log_addFragment, redefinedNames_concat, List.map_append]
    simp only [hc, List.foldlM_nil, Logged.log_pure, List.append_nil]
    split <;> rfl

theorem log_ofSources (sources : List FragmentSource) :
    (ofSources sources).log = (redefinedNames (definedFragments sources)).map .redefined ++
      [.indexed (ofFragments (definedFragments sources)).size] := by
  rw [ofSources_eq, Logged.log_bind, log_foldlM_addFragment, value_foldlM_empty]
  rfl

theorem name_of_find?_ofFragments {fragments : List Fragment} {name : String} {fragment : Fragment}
    (h : (ofFragments fragments).find? name = some fragment) : fragment.name = name := by
  rw [find?_ofFragments] at h
  simpa using List.find?_some h

theorem length_redefinedNames (fragments : List Fragment) :
    (redefinedNames fragments).length + (ofFragments fragments).size = fragments.length := by
  rw [redefinedNames, List.length_map, ← List.countP_eq_length_filter,
    (collects_ofFragments fragments).size_eq, countP_markRepeats]

/-- Sources are indexed, and notes are made of it, as if their fragments came by themselves one after
the other. The index has each name once, where it was defined first, with the fragment that was defined
last under it. Noted is each name that is defined again, in order, and then how many names there are; so
that there are as many notes of the first kind as fragments that are not in the index. -/
theorem ofSources_indexes (sources : List FragmentSource) :
    ofSources sources = ofSources ((definedFragments sources).map .fragment) ∧
    (ofSources sources).value.Collects Fragment.name id (definedFragments sources) ∧
    (∀ entry ∈ (ofSources sources).value.entries, entry.1 = entry.2.name) ∧
    (ofSources sources).log = (redefinedNames (definedFragments sources)).map .redefined ++
      [.indexed ((definedFragments sources).map Fragment.name).eraseDups.length] ∧
    (redefinedNames (definedFragments sources)).length + (ofSources sources).value.size =
      (definedFragments sources).length := by
  have hvalue : (ofSources sources).value = ofFragments (definedFragments sources) :=
    value_ofSources sources
  refine ⟨?_, ?_, ?_, ?_, ?_⟩
  · rw [ofSources_eq, ofSources_eq, definedFragments_map_fragment]
  · rw [hvalue]
    exact collects_ofFragments _
  · intro entry he
    rw [hvalue] at he
    exact (name_of_find?_ofFragments (Table.mem_entries_iff.mp he)).symm
  · rw [log_ofSources, (collects_ofFragments _).size_eq]
  · rw [hvalue, length_redefinedNames]

section Mixture

def bareFragment (name condition : String) : Fragment := { name, condition }

/-- Documents and a fragment by itself, with one name that is defined three times. -/
def mixedSources : List FragmentSource :=
  [.document ⟨[.fragment (bareFragment "A" "T"), .operation {}, .fragment (bareFragment "B" "T")]⟩,
    .fragment (bareFragment "A" "U"),
    .document ⟨[.typeSystem .object, .fragment (bareFragment "C" "T"),
      .fragment (bareFragment "A" "V")]⟩]

theorem ofSources_indexes_mixedSources :
    (ofSources mixedSources).value.keys = ["A", "B", "C"] ∧
    (ofSources mixedSources).value.find? "A" = some (bareFragment "A" "V") ∧
    (ofSources mixedSources).log = [.redefined "A", .redefined "A", .indexed 3] := by
  obtain ⟨-, hcollects, -, hlog, -⟩ := ofSources_indexes mixedSources
  refine ⟨?_, ?_, ?_⟩
  · rw [hcollects.order]
    rfl
  · exact hcollects.last [_, _, _, _] (bareFragment "A" "V") [] rfl (by simp)
  · rw [hlog]
    rfl

end Mixture

end FragmentIndex

end QueryRegistry
