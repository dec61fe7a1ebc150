import QueryRegistry.Proofs.Fragment.PlainWalk
import QueryRegistry.Proofs.Table.Occurrence

/-! What the record of a walk is worth. A fragment that has been met and is no longer on the path is
one into which the plain walk would go without a fault, to emit nothing but names that have been met.
So a walk that skips it has the outcome of the plain walk. -/

namespace QueryRegistry

namespace FragmentIndex

variable {index : FragmentIndex} {path names : List String} {used used' : FragmentTable}

/-- What a walk has met: entries of the index, and behind the path only such whose spreads lead to
nothing new. -/
structure Recorded (index : FragmentIndex) (path : List String) (used : FragmentTable) : Prop where
  indexed : ∀ {name fragment}, used.find? name = some fragment →
    index.find? name = some fragment
  finished : ∀ {name fragment}, used.find? name = some fragment → name ∉ path →
    ∃ inner, Emits index (path ++ [name]) fragment.spreads inner ∧ ∀ x ∈ inner, x ∈ used.keys

theorem recorded_empty (index : FragmentIndex) (path : List String) :
    Recorded index path Table.empty :=
  ⟨fun h => by simp at h, fun h _ => by simp at h⟩

theorem Recorded.enter (h : Recorded index path used) {name : String} {fragment : Fragment}
    (hu : name ∉ used.keys) (hf : index.find? name = some fragment) :
    Recorded index (path ++ [name]) (used.insert name fragment) := by
  refine ⟨fun hx => ?_, fun {x f} hx hp => ?_⟩
  · rw [Table.find?_insert] at hx
    split at hx
    next he => rw [he, hf, hx]
    · exact h.indexed hx
  · have hxn : x ≠ name := fun e => hp (e ▸ List.mem_append_right _ List.mem_cons_self)
    have hxp : x ∉ path := fun hm => hp (List.mem_append_left _ hm)
    rw [Table.find?_insert, if_neg hxn] at hx
    obtain ⟨inner, hi, hs⟩ := h.finished hx hxp
    -- All that `inner` holds is on record, and the new name is not, so the longer path does no harm.
    refine ⟨inner, hi.on_path fun y hy => ?_, fun y hy => ?_⟩
    · intro hm
      rcases List.mem_append.mp hm with hm | hm
      · rcases List.mem_append.mp hm with hm | hm
        · exact hi.off_path y hy (List.mem_append_left _ hm)
        · exact hu (List.mem_singleton.mp hm ▸ hs y hy)
      · exact hi.off_path y hy (List.mem_append_right _ hm)
    · rw [Table.keys_insert_eq_eraseDups, List.mem_eraseDups]
      exact List.mem_append_left _ (hs y hy)

theorem Recorded.leave {name : String} {fragment : Fragment} {inner : List String}
    (h : Recorded index (path ++ [name]) used) (hf : index.find? name = some fragment)
    (hi : Emits index (path ++ [name]) fragment.spreads inner) (hs : ∀ x ∈ inner, x ∈ used.keys) :
    Recorded index path used := by
  refine ⟨h.indexed, fun {x f} hx hp => ?_⟩
  by_cases he : x = name
  · subst he
    obtain rfl : fragment = f := Option.some.inj (hf.symm.trans (h.indexed hx))
    exact ⟨inner, hi, hs⟩
  · have hp' : x ∉ path ++ [name] := by simp [hp, he]
    obtain ⟨inside, hin, hsub⟩ := h.finished hx hp'
    refine ⟨inside, hin.on_path fun y hy hm => ?_, hsub⟩
    rcases List.mem_append.mp hm with hm | hm
    · exact hin.off_path y hy (List.mem_append_left _ (List.mem_append_left _ hm))
    · exact hin.off_path y hy (List.mem_append_right _ hm)

theorem walk_nil (fuel : Nat) : walk index (fuel + 1) path [] used = .ok used := by
  rw [walk, List.foldlM_nil]
  rfl

theorem walk_cons (fuel : Nat) (name : String) (rest : List String) :
    walk index (fuel + 1) path (name :: rest) used =
      (visit index (walk index fuel) path used name).bind
        fun met => walk index (fuel + 1) path rest met := by
  rw [walk, List.foldlM_cons]
  rfl

/-- All that one spread of a walk can come to, whatever the walk inside a fragment does. -/
theorem visit_cases (index : FragmentIndex) (path : List String) (used : FragmentTable)
    (name : String) :
    (name ∈ path ∧ ∀ enter,
      visit index enter path used name = .error (.fault (.cycle (cyclePath path name)))) ∨
    (name ∉ path ∧ name ∈ used.keys ∧ ∀ enter, visit index enter path used name = .ok used) ∨
    (name ∉ path ∧ name ∉ used.keys ∧ index.find? name = none ∧ ∀ enter,
      visit index enter path used name = .error (.fault (.unknown name))) ∨
    ∃ fragment, name ∉ path ∧ name ∉ used.keys ∧ index.find? name = some fragment ∧ ∀ enter,
      visit index enter path used name =
        enter (path ++ [name]) fragment.spreads (used.insert name fragment) := by
  by_cases hp : name ∈ path
  · exact .inl ⟨hp, fun enter => by simp [visit, hp]⟩
  · refine .inr ?_
    by_cases hu : name ∈ used.keys
    · exact .inl ⟨hp, hu, fun enter => by simp [visit, hp, Table.contains_iff.mpr hu]⟩
    · refine .inr ?_
      have hc : used.contains name = false := by
        rwa [Bool.eq_false_iff, ne_eq, Table.contains_iff]
      cases hf : index.find? name with
      | none => exact .inl ⟨hp, hu, rfl, fun enter => by simp [visit, hp, hc, hf]⟩
      | some fragment =>
        exact .inr ⟨fragment, hp, hu, rfl, fun enter => by simp [visit, hp, hc, hf]⟩

/-- How the outcome of a walk compares with the plain walk through the same names. -/
structure Follows (index : FragmentIndex) (path names : List String) (used : FragmentTable)
    (outcome : Except Halt FragmentTable) : Prop where
  success : ∀ {used'}, outcome = .ok used' → ∃ emitted, Emits index path names emitted ∧
    used'.keys = (used.keys ++ emitted).eraseDups ∧ Recorded index path used'
  failure : ∀ {error}, outcome = .error (.fault error) → Faults index path names error

theorem visit_follows {enter : List String → List String → FragmentTable → Except Halt FragmentTable}
    (ih : ∀ {path names used}, Recorded index path used →
      Follows index path names used (enter path names used))
    (h : Recorded index path used) (name : String) :
    Follows index path [name] used (visit index enter path used name) := by
  rcases visit_cases index path used name with
    ⟨hp, hv⟩ | ⟨hp, hu, hv⟩ | ⟨hp, -, hf, hv⟩ | ⟨fragment, hp, hu, hf, hv⟩
  · refine ⟨fun he => by simp [hv] at he, fun he => ?_⟩
    rw [hv, Except.error.injEq, Halt.fault.injEq] at he
    exact he ▸ .cycle hp
  · -- Passed over. It is finished, so the plain walk through it ends well and emits nothing new.
    refine ⟨fun he => ?_, fun he => by simp [hv] at he⟩
    obtain rfl : used = _ := Except.ok.inj ((hv enter).symm.trans he)
    obtain ⟨fragment, hx⟩ := Table.mem_keys_iff.mp hu
    obtain ⟨inner, hi, hs⟩ := h.finished hx hp
    refine ⟨name :: (inner ++ []), .step hp (h.indexed hx) hi (.nil path), ?_, h⟩
    rw [eraseDups_append_of_subset, used.eraseDups_keys]
    intro y hy
    rcases List.mem_cons.mp hy with rfl | hy
    · exact hu
    · exact hs y (by simpa using hy)
  · refine ⟨fun he => by simp [hv] at he, fun he => ?_⟩
    rw [hv, Except.error.injEq, Halt.fault.injEq] at he
    exact he ▸ .unknown hp hf
  · have hh : Follows index (path ++ [name]) fragment.spreads (used.insert name fragment)
        (visit index enter path used name) := hv enter ▸ ih (h.enter hu hf)
    refine ⟨fun he => ?_, fun he => .inside hp hf (hh.failure he)⟩
    obtain ⟨inner, hi, hk, hr⟩ := hh.success he
    refine ⟨name :: (inner ++ []), .step hp hf hi (.nil path), ?_, hr.leave hf hi fun x hx => ?_⟩
    · rw [hk, Table.keys_insert_eq_eraseDups, eraseDups_eraseDups_append, List.append_nil,
        List.append_assoc, List.singleton_append]
    · rw [hk, List.mem_eraseDups]
      exact List.mem_append_right _ hx

/-- A walk follows the plain walk, whatever it has met before. -/
theorem walk_follows (fuel : Nat) (h : Recorded index path used) :
    Follows index path names used (walk index fuel path names used) := by
  -- On the fuel for what is inside the fragments, and for each fuel on the names side by side.
  induction fuel generalizing path names used with
  | zero => exact ⟨fun he => by simp [walk] at he, fun he => by simp [walk] at he⟩
  | succ fuel ih =>
    induction names generalizing used with
    | nil =>
      rw [walk_nil]
      refine ⟨fun he => ?_, fun he => by simp at he⟩
      obtain rfl := Except.ok.inj he
      exact ⟨[], .nil path, by rw [List.append_nil, used.eraseDups_keys], h⟩
    | cons name rest ihn =>
      have hv := visit_follows (fun hr => ih hr) h name
      rw [walk_cons]
      cases hc : visit index (walk index fuel) path used name with
      | error halt =>
        refine ⟨fun he => by simp [Except.bind] at he, fun he => ?_⟩
        have hf := hv.failure (hc.trans he)
        cases hf with
        | cycle on => exact .cycle on
        | unknown off absent => exact .unknown off absent
        | inside off indexed fault => exact .inside off indexed fault
        | behind off indexed inside fault => cases fault
      | ok met =>
        obtain ⟨emitted, hem, hk, hr⟩ := hv.success hc
        cases hem with
        | @step _ _ inner later _ fragment off indexed inside behind =>
          cases behind
          have hh := ihn hr
          refine ⟨fun he => ?_, fun he => .behind off indexed inside (hh.failure he)⟩
          obtain ⟨later, hl, hk', hr'⟩ := hh.success he
          refine ⟨name :: (inner ++ later), .step off indexed inside hl, ?_, hr'⟩
          rw [hk', hk, eraseDups_eraseDups_append, List.append_nil, List.append_assoc,
            List.cons_append]

/-- The names that a definition uses are those the plain walk emits, each at its first place. -/
theorem emits_of_used {definition : Executable} (h : index.used definition = .ok used) :
    ∃ emitted, Emits index definition.startPath definition.spreads emitted ∧
      used.keys = emitted.eraseDups ∧ ∀ name ∈ emitted, used.find? name = index.find? name := by
  have hw := used_eq_ok_iff.mp h
  obtain ⟨emitted, hem, hk, hr⟩ :=
    (walk_follows _ (recorded_empty index definition.startPath)).success hw
  rw [Table.keys_empty, List.nil_append] at hk
  refine ⟨emitted, hem, hk, fun name hn => ?_⟩
  obtain ⟨fragment, hf⟩ := Table.mem_keys_iff.mp (hk ▸ List.mem_eraseDups.mpr hn)
  rw [hf, hr.indexed hf]

theorem faults_of_used {definition : Executable} {error : SpreadError}
    (h : index.used definition = .error error) :
    Faults index definition.startPath definition.spreads error :=
  (walk_follows _ (recorded_empty index definition.startPath)).failure (used_eq_error_iff.mp h)

theorem exists_used_of_emits {definition : Executable} {emitted : List String}
    (h : Emits index definition.startPath definition.spreads emitted) :
    ∃ used, index.used definition = .ok used := by
  cases hu : index.used definition with
  | ok used => exact ⟨used, rfl⟩
  | error error =>
    have hf := (faults_of_used hu).plainWalk_eq
    rw [h.plainWalk_eq] at hf
    simp at hf

end FragmentIndex

end QueryRegistry
