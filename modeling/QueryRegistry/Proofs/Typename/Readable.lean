import QueryRegistry.Proofs.Document.Readable
import QueryRegistry.Proofs.Typename.Addition

/-! Asking for type names keeps syntax readable. The field that is put in is a leaf with no label, no
arguments and no directives, so it stands at any place that a selection set has; and no selection moves
further in. -/

namespace QueryRegistry

namespace Selection

theorem readable_typenameField (levels : Nat) : typenameField.Readable levels :=
  .leaf (by simp) (by decide) (by simp) (by simp)

theorem readable_askTypename {levels : Nat} {selections : List Selection} (hne : selections ≠ [])
    (h : ∀ s ∈ selections, s.Readable levels) :
    (askTypename selections).value ≠ [] ∧ ∀ s ∈ (askTypename selections).value, s.Readable levels := by
  rw [askTypename]
  split
  · exact ⟨hne, h⟩
  · refine ⟨by simp, fun s hs => ?_⟩
    rcases List.mem_append.mp hs with hs | hs
    · exact h s hs
    · exact List.mem_singleton.mp hs ▸ readable_typenameField levels

theorem readable_withTypenameEach {levels : Nat} {selections : List Selection}
    (hne : selections ≠ []) (h : ∀ s ∈ selections, s.withTypename.value.Readable levels) :
    (withTypenameEach selections).value ≠ [] ∧
      ∀ s ∈ (withTypenameEach selections).value, s.Readable levels := by
  rw [value_withTypenameEach]
  refine ⟨by simpa using hne, fun s hs => ?_⟩
  obtain ⟨original, ho, rfl⟩ := List.mem_map.mp hs
  exact h original ho

theorem readable_askEach {levels : Nat} {selections : List Selection} (hne : selections ≠ [])
    (h : ∀ s ∈ selections, s.withTypename.value.Readable levels) :
    (askTypename (withTypenameEach selections).value).value ≠ [] ∧
      ∀ s ∈ (askTypename (withTypenameEach selections).value).value, s.Readable levels := by
  have heach := readable_withTypenameEach hne h
  exact readable_askTypename heach.1 heach.2

theorem Readable.withTypename {levels : Nat} {selection : Selection}
    (h : selection.Readable levels) : selection.withTypename.value.Readable levels := by
  induction h with
  | leaf hl hn ha hd => exact .leaf hl hn ha hd
  | field hl hn ha hd hne _ ih =>
    have hask := readable_askEach hne ih
    exact .field hl hn ha hd hask.1 hask.2
  | spread hn hon hd => exact .spread hn hon hd
  | inline hc hd hne _ ih =>
    have hask := readable_askEach hne ih
    exact .inline hc hd hask.1 hask.2

end Selection

theorem SetReadable.withTypenameRoot {selections : SelectionSet} (h : SetReadable selections) :
    SetReadable (Selection.withTypenameRoot selections).value := by
  obtain ⟨list, rfl, hne, inner, hlevels, hs⟩ := h
  have heach := Selection.readable_withTypenameEach hne fun s hm => (hs s hm).withTypename
  exact ⟨_, rfl, heach.1, inner, hlevels, heach.2⟩

theorem SetReadable.withTypenameSet {selections : SelectionSet} (h : SetReadable selections) :
    SetReadable (Selection.withTypenameSet selections).value := by
  obtain ⟨list, rfl, hne, inner, hlevels, hs⟩ := h
  have hask := Selection.readable_askEach hne fun s hm => (hs s hm).withTypename
  exact ⟨_, rfl, hask.1, inner, hlevels, hask.2⟩

theorem Executable.Readable.withTypename {definition : Executable} (h : definition.Readable) :
    definition.withTypename.value.Readable := by
  cases definition with
  | operation op =>
    have hop : op.Readable := h
    exact { hop with selections := hop.selections.withTypenameRoot }
  | fragment f =>
    have hf : f.Readable := h
    exact { hf with selections := hf.selections.withTypenameSet }

end QueryRegistry
