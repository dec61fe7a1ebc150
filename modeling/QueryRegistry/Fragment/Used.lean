import QueryRegistry.Fragment.Walk

/-! The fragments that a definition uses. The fuel for the walk that finds them is counted off from
the index, and as it never runs out the answer knows nothing of it. -/

namespace QueryRegistry

def Executable.startPath (definition : Executable) : List String :=
  definition.fragmentName?.toList

namespace FragmentIndex

/-- The walk through the spreads of a definition. It meets each indexed fragment once at most, so
that fuel for all of them and for the definition itself lasts. -/
def walkFrom (index : FragmentIndex) (definition : Executable) : Except Halt FragmentTable :=
  walk index (index.size + 1) definition.startPath definition.spreads Table.empty

theorem walkFrom_ne_exhausted (index : FragmentIndex) (definition : Executable) :
    walkFrom index definition ≠ .error .exhausted :=
  walk_ne_exhausted (by rw [length_unmet_empty]; exact Nat.lt_succ_self _)

def used (index : FragmentIndex) (definition : Executable) :
    Except SpreadError FragmentTable :=
  match h : walkFrom index definition with
  | .ok met => .ok met
  | .error (.fault error) => .error error
  | .error .exhausted => absurd h (walkFrom_ne_exhausted index definition)

theorem used_eq_ok_iff {index : FragmentIndex} {definition : Executable} {met : FragmentTable} :
    index.used definition = .ok met ↔ walkFrom index definition = .ok met := by
  unfold used
  split
  next h => simp [h]
  next h => simp [h]
  next h => exact absurd h (walkFrom_ne_exhausted index definition)

theorem used_eq_error_iff {index : FragmentIndex} {definition : Executable} {error : SpreadError} :
    index.used definition = .error error ↔
      walkFrom index definition = .error (.fault error) := by
  unfold used
  split
  next h => simp [h]
  next h => simp [h]
  next h => exact absurd h (walkFrom_ne_exhausted index definition)

end FragmentIndex

end QueryRegistry
