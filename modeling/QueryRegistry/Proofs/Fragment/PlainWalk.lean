import QueryRegistry.Fragment.Used

/-! The walk that keeps no record of what it has met. It goes into every spread, however often the
same fragment is spread, and looks only at its path. A run of it that succeeds emits the names it
goes into; a run that fails has one of two faults. -/

namespace QueryRegistry

namespace FragmentIndex

def offPath (index : FragmentIndex) (path : List String) : List String :=
  index.keys.filter fun name => !path.contains name

theorem length_offPath_lt {index : FragmentIndex} {path : List String} {name : String}
    {fragment : Fragment} (hf : index.find? name = some fragment) (hp : name ∉ path) :
    (offPath index (path ++ [name])).length < (offPath index path).length := by
  refine length_filter_lt_of_imp (fun key _ hk => ?_) (Table.mem_keys_of_find? hf) ?_ ?_
  · simp only [Bool.not_eq_true', List.contains_eq_mem, decide_eq_false_iff_not] at hk ⊢
    exact fun h => hk (List.mem_append_left _ h)
  · simp
  · simpa using hp

/-- Goes into the fragment of each name in turn, on a path that grows by the name. A path holds an
indexed name once at most, so that the walk comes to an end. -/
def plainWalk (index : FragmentIndex) (path names : List String) :
    Except SpreadError (List String) :=
  match names with
  | [] => .ok []
  | name :: rest =>
    if _hp : name ∈ path then .error (.cycle (cyclePath path name))
    else
      match _hf : index.find? name with
      | none => .error (.unknown name)
      | some fragment => do
        let inner ← plainWalk index (path ++ [name]) fragment.spreads
        let later ← plainWalk index path rest
        return name :: (inner ++ later)
termination_by ((offPath index path).length, names.length)
decreasing_by
  · exact Prod.Lex.left _ _ (length_offPath_lt _hf _hp)
  · exact Prod.Lex.right _ (Nat.lt_succ_self _)

/-- The runs of the plain walk that succeed: path, names to go into, names emitted. -/
inductive Emits (index : FragmentIndex) : List String → List String → List String → Prop
  | nil (path : List String) : Emits index path [] []
  | step {path rest inner later : List String} {name : String} {fragment : Fragment}
      (off : name ∉ path) (indexed : index.find? name = some fragment)
      (inside : Emits index (path ++ [name]) fragment.spreads inner)
      (behind : Emits index path rest later) :
      Emits index path (name :: rest) (name :: (inner ++ later))

/-- The runs of the plain walk that fail: path, names to go into, fault. -/
inductive Faults (index : FragmentIndex) : List String → List String → SpreadError → Prop
  | cycle {path rest : List String} {name : String} (on : name ∈ path) :
      Faults index path (name :: rest) (.cycle (cyclePath path name))
  | unknown {path rest : List String} {name : String} (off : name ∉ path)
      (absent : index.find? name = none) : Faults index path (name :: rest) (.unknown name)
  | inside {path rest : List String} {name : String} {fragment : Fragment} {error : SpreadError}
      (off : name ∉ path) (indexed : index.find? name = some fragment)
      (fault : Faults index (path ++ [name]) fragment.spreads error) :
      Faults index path (name :: rest) error
  | behind {path rest inner : List String} {name : String} {fragment : Fragment}
      {error : SpreadError} (off : name ∉ path) (indexed : index.find? name = some fragment)
      (inside : Emits index (path ++ [name]) fragment.spreads inner)
      (fault : Faults index path rest error) : Faults index path (name :: rest) error

variable {index : FragmentIndex} {path names emitted : List String} {name : String}

theorem plainWalk_nil : plainWalk index path [] = .ok [] := by
  rw [plainWalk]

theorem plainWalk_cons_of_mem (rest : List String) (hp : name ∈ path) :
    plainWalk index path (name :: rest) = .error (.cycle (cyclePath path name)) := by
  rw [plainWalk, dif_pos hp]

theorem plainWalk_cons_of_none (rest : List String) (hp : name ∉ path)
    (hf : index.find? name = none) :
    plainWalk index path (name :: rest) = .error (.unknown name) := by
  rw [plainWalk, dif_neg hp]
  split
  · rfl
  next fragment hs => rw [hf] at hs; simp at hs

theorem plainWalk_cons_of_some (rest : List String) {fragment : Fragment} (hp : name ∉ path)
    (hf : index.find? name = some fragment) :
    plainWalk index path (name :: rest) =
      (plainWalk index (path ++ [name]) fragment.spreads).bind fun inner =>
        (plainWalk index path rest).map fun later => name :: (inner ++ later) := by
  rw [plainWalk, dif_neg hp]
  split
  next hs => rw [hf] at hs; simp at hs
  next found hs =>
    rw [hf, Option.some.injEq] at hs
    subst hs
    cases plainWalk index (path ++ [name]) fragment.spreads with
    | error e => rfl
    | ok inner => cases plainWalk index path rest <;> rfl

theorem Emits.plainWalk_eq (h : Emits index path names emitted) :
    plainWalk index path names = .ok emitted := by
  induction h with
  | nil path => exact plainWalk_nil
  | step off indexed _ _ ihi ihl =>
    rw [plainWalk_cons_of_some _ off indexed, ihi, ihl]
    rfl

theorem Faults.plainWalk_eq {error : SpreadError} (h : Faults index path names error) :
    plainWalk index path names = .error error := by
  induction h with
  | cycle on => exact plainWalk_cons_of_mem _ on
  | unknown off absent => exact plainWalk_cons_of_none _ off absent
  | inside off indexed _ ih => rw [plainWalk_cons_of_some _ off indexed, ih]; rfl
  | behind off indexed inside _ ih =>
    rw [plainWalk_cons_of_some _ off indexed, inside.plainWalk_eq, ih]
    rfl

theorem emits_or_faults (index : FragmentIndex) (path names : List String) :
    (∃ emitted, Emits index path names emitted) ∨ ∃ error, Faults index path names error := by
  fun_induction plainWalk index path names with
  | case1 path => exact .inl ⟨[], .nil path⟩
  | case2 path name rest hp => exact .inr ⟨_, .cycle hp⟩
  | case3 path name rest hp hf => exact .inr ⟨_, .unknown hp hf⟩
  | case4 path name rest hp fragment hf ihi ihl =>
    rcases ihi with ⟨inner, hi⟩ | ⟨error, hi⟩
    · rcases ihl with ⟨later, hl⟩ | ⟨error, hl⟩
      · exact .inl ⟨_, .step hp hf hi hl⟩
      · exact .inr ⟨error, .behind hp hf hi hl⟩
    · exact .inr ⟨error, .inside hp hf hi⟩

theorem Emits.off_path (h : Emits index path names emitted) : ∀ x ∈ emitted, x ∉ path := by
  induction h with
  | nil path => simp
  | step off indexed _ _ ihi ihl =>
    intro x hx
    rcases List.mem_cons.mp hx with rfl | hx
    · exact off
    · rcases List.mem_append.mp hx with hx | hx
      · exact fun hp => ihi x hx (List.mem_append_left _ hp)
      · exact ihl x hx

/-- A run that succeeds does so on every path that holds none of the names it emits. -/
theorem Emits.on_path (h : Emits index path names emitted) {other : List String}
    (ho : ∀ x ∈ emitted, x ∉ other) : Emits index other names emitted := by
  induction h generalizing other with
  | nil path => exact .nil other
  | @step path rest inner later name fragment off indexed inside behind ihi ihl =>
    -- The run inside had `name` on its path already, so it did not emit it.
    have hi : ∀ x ∈ inner, x ∉ other ++ [name] := by
      intro x hx hm
      rcases List.mem_append.mp hm with hm | hm
      · exact ho x (List.mem_cons_of_mem _ (List.mem_append_left _ hx)) hm
      · exact inside.off_path x hx (List.mem_append_right _ hm)
    have hl : ∀ x ∈ later, x ∉ other := fun x hx =>
      ho x (List.mem_cons_of_mem _ (List.mem_append_right _ hx))
    exact .step (ho name List.mem_cons_self) indexed (ihi hi) (ihl hl)

theorem Emits.names_subset (h : Emits index path names emitted) : ∀ x ∈ names, x ∈ emitted := by
  induction h with
  | nil path => simp
  | step off indexed _ _ _ ihl =>
    intro x hx
    rcases List.mem_cons.mp hx with rfl | hx
    · exact List.mem_cons_self
    · exact List.mem_cons_of_mem _ (List.mem_append_right _ (ihl x hx))

/-- The run went into each name that it emitted, and emitted all that it met there. -/
theorem Emits.inside_of_mem (h : Emits index path names emitted) {x : String}
    (hx : x ∈ emitted) : ∃ fragment inner, index.find? x = some fragment ∧
      Emits index [x] fragment.spreads inner ∧ ∀ y ∈ inner, y ∈ emitted := by
  induction h with
  | nil path => simp at hx
  | @step path rest inner later name fragment off indexed inside behind ihi ihl =>
    rcases List.mem_cons.mp hx with rfl | hx
    · refine ⟨fragment, inner, indexed, inside.on_path fun y hy => ?_, fun y hy => ?_⟩
      · exact fun hm => inside.off_path y hy (List.mem_append_right _ hm)
      · exact List.mem_cons_of_mem _ (List.mem_append_left _ hy)
    · rcases List.mem_append.mp hx with hx | hx
      · obtain ⟨f, em, hf, he, hs⟩ := ihi hx
        exact ⟨f, em, hf, he, fun y hy =>
          List.mem_cons_of_mem _ (List.mem_append_left _ (hs y hy))⟩
      · obtain ⟨f, em, hf, he, hs⟩ := ihl hx
        exact ⟨f, em, hf, he, fun y hy =>
          List.mem_cons_of_mem _ (List.mem_append_right _ (hs y hy))⟩

end FragmentIndex

end QueryRegistry
