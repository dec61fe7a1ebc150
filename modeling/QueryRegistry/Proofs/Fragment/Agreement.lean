import QueryRegistry.Registration
import QueryRegistry.Proofs.Fragment.Reachability

/-! Indexes that agree as far as a walk can reach. A walk looks only at what can be reached from where
it starts, so that it cannot tell two such indexes from each other. -/

namespace QueryRegistry

namespace FragmentIndex

variable {index other : FragmentIndex} {path names emitted : List String}

/-- Each name that can be reached is indexed in both or in neither, and spreads the same names. -/
def Agree (index other : FragmentIndex) (names : List String) : Prop :=
  ∀ x, ReachesFrom index.find? names x →
    (index.find? x).map Fragment.spreads = (other.find? x).map Fragment.spreads

theorem Agree.behind {name : String} (h : Agree index other (name :: names)) :
    Agree index other names := fun x hx => h x hx.behind

theorem Agree.absent {name : String} (h : Agree index other (name :: names))
    (hf : index.find? name = none) : other.find? name = none := by
  have hh := h name (.of_mem List.mem_cons_self)
  rw [hf, Option.map_none] at hh
  exact Option.map_eq_none_iff.mp hh.symm

theorem Agree.inside {name : String} {fragment : Fragment}
    (h : Agree index other (name :: names)) (hf : index.find? name = some fragment) :
    ∃ found, other.find? name = some found ∧ found.spreads = fragment.spreads ∧
      Agree index other fragment.spreads := by
  have hh := h name (.of_mem List.mem_cons_self)
  rw [hf, Option.map_some] at hh
  obtain ⟨found, hs, he⟩ := Option.map_eq_some_iff.mp hh.symm
  exact ⟨found, hs, he, fun x hx => h x ((ReachesFrom.of_mem List.mem_cons_self).through hf hx)⟩

theorem Emits.congr (h : Emits index path names emitted) (ha : Agree index other names) :
    Emits other path names emitted := by
  induction h with
  | nil path => exact .nil path
  | step off indexed _ _ ihi ihl =>
    obtain ⟨found, hf, he, hi⟩ := ha.inside indexed
    exact .step off hf (he ▸ ihi hi) (ihl ha.behind)

theorem Faults.congr {error : SpreadError} (h : Faults index path names error)
    (ha : Agree index other names) : Faults other path names error := by
  induction h with
  | cycle on => exact .cycle on
  | unknown off absent => exact .unknown off (ha.absent absent)
  | inside off indexed _ ih =>
    obtain ⟨found, hf, he, hi⟩ := ha.inside indexed
    exact .inside off hf (he ▸ ih hi)
  | behind off indexed inside _ ih =>
    obtain ⟨found, hf, he, hi⟩ := ha.inside indexed
    exact .behind off hf (he ▸ inside.congr hi) (ih ha.behind)

theorem used_eq_error_of_faults {definition : Executable} {error : SpreadError}
    (h : Faults index definition.startPath definition.spreads error) :
    index.used definition = .error error := by
  cases hu : index.used definition with
  | ok used =>
    obtain ⟨emitted, he, _⟩ := emits_of_used hu
    have hh := he.plainWalk_eq
    rw [h.plainWalk_eq] at hh
    simp at hh
  | error found =>
    have hh := (faults_of_used hu).plainWalk_eq
    rw [h.plainWalk_eq] at hh
    exact congrArg Except.error (Except.error.inj hh).symm

theorem Emits.unique {emitted' : List String} (h : Emits index path names emitted)
    (h' : Emits index path names emitted') : emitted = emitted' :=
  Except.ok.inj (h.plainWalk_eq.symm.trans h'.plainWalk_eq)

/-- With indexes that agree, definitions that spread the same names use fragments of the same names,
or fail to be completed in the same way. -/
theorem used_of_agree {definition definition' : Executable}
    (hpath : definition.startPath = definition'.startPath)
    (hspreads : definition.spreads = definition'.spreads)
    (ha : Agree index other definition.spreads) :
    (∃ error, index.used definition = .error error ∧ other.used definition' = .error error) ∨
    ∃ used used', index.used definition = .ok used ∧ other.used definition' = .ok used' ∧
      used.keys = used'.keys := by
  cases hu : index.used definition with
  | error error =>
    have hf := (faults_of_used hu).congr ha
    rw [hpath, hspreads] at hf
    exact .inl ⟨error, rfl, used_eq_error_of_faults hf⟩
  | ok used =>
    obtain ⟨emitted, he, hk, _⟩ := emits_of_used hu
    have he' := he.congr ha
    rw [hpath, hspreads] at he'
    obtain ⟨used', hu'⟩ := exists_used_of_emits he'
    obtain ⟨emitted', hem, hk', _⟩ := emits_of_used hu'
    obtain rfl : emitted = emitted' := he'.unique hem
    exact .inr ⟨used, used', rfl, hu', hk.trans hk'.symm⟩

/-- A definition uses the same fragments with two indexes that hold the same under each name that
can be reached from it. -/
theorem used_congr {definition : Executable}
    (h : ∀ x, Reaches index.find? definition x → index.find? x = other.find? x) :
    index.used definition = other.used definition := by
  have ha : Agree index other definition.spreads := fun x hx => congrArg _ (h x hx)
  rcases used_of_agree rfl rfl ha with ⟨error, hu, hu'⟩ | ⟨used, used', hu, hu', hk⟩
  · rw [hu, hu']
  · rw [hu, hu']
    refine congrArg Except.ok (Table.eq_of_keys_of_find? hk fun key hkey => ?_)
    rw [find?_eq_of_mem_used hu hkey, find?_eq_of_mem_used hu' (hk ▸ hkey),
      h key ((mem_keys_used hu).mp hkey)]

theorem canonicalText_congr {definition : Executable}
    (h : ∀ x, Reaches index.find? definition x → index.find? x = other.find? x) :
    index.canonicalText definition = other.canonicalText definition := by
  rw [canonicalText, canonicalDefinitions, used_congr h]
  rfl

end FragmentIndex

end QueryRegistry
