import QueryRegistry.Proofs.Fragment.Agreement

/-! Indexes that hold more than others. A walk does the same with both up to the first name that is held
by the larger one only, and with the smaller one it ends there. -/

namespace QueryRegistry

namespace FragmentIndex

variable {index larger : FragmentIndex} {path names emitted : List String}

def Within (index larger : FragmentIndex) : Prop :=
  ∀ name fragment, index.find? name = some fragment → larger.find? name = some fragment

theorem Emits.within (h : Emits index path names emitted) (hw : index.Within larger) :
    Emits larger path names emitted := by
  induction h with
  | nil path => exact .nil path
  | step off indexed _ _ ihi ihl => exact .step off (hw _ _ indexed) ihi ihl

/-- A walk that fails does so with a larger index too, unless it has come to a name that is new. -/
theorem Faults.within {error : SpreadError} (h : Faults index path names error)
    (hw : index.Within larger) :
    Faults larger path names error ∨ ∃ name, error = .unknown name ∧
      index.find? name = none ∧ ∃ fragment, larger.find? name = some fragment := by
  induction h with
  | cycle on => exact .inl (.cycle on)
  | @unknown path rest name off absent =>
    cases hf : larger.find? name with
    | none => exact .inl (.unknown off hf)
    | some fragment => exact .inr ⟨name, rfl, absent, fragment, hf⟩
  | inside off indexed _ ih => exact ih.imp_left (.inside off (hw _ _ indexed))
  | behind off indexed inside _ ih =>
    exact ih.imp_left (.behind off (hw _ _ indexed) (inside.within hw))

theorem used_within {definition : Executable} {used : FragmentTable}
    (h : index.used definition = .ok used) (hw : index.Within larger) :
    larger.used definition = .ok used := by
  rw [← h]
  refine (used_congr fun x hx => ?_).symm
  obtain ⟨fragment, hf⟩ := (sound_of_used h).indexed x hx
  rw [hf, hw x fragment hf]

/-- With a larger index the same text is sent for a definition, or sending it fails in the same way,
unless it failed for want of a name that is new. -/
theorem canonicalText_within (hw : index.Within larger) (definition : Executable) :
    larger.canonicalText definition = index.canonicalText definition ∨
    ∃ name, index.canonicalText definition = .error (.unknown name) ∧
      index.find? name = none ∧ ∃ fragment, larger.find? name = some fragment := by
  simp only [canonicalText, canonicalDefinitions]
  cases hu : index.used definition with
  | ok used =>
    rw [used_within hu hw]
    exact .inl rfl
  | error error =>
    rcases (faults_of_used hu).within hw with hf | ⟨name, rfl, habsent, hnew⟩
    · rw [used_eq_error_of_faults hf]
      exact .inl rfl
    · exact .inr ⟨name, rfl, habsent, hnew⟩

end FragmentIndex

end QueryRegistry
