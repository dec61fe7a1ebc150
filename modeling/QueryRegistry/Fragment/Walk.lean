import QueryRegistry.Fragment.Index
import QueryRegistry.Fragment.Spreads

/-! The fragments that a definition uses, directly or through others. They are met on a walk that
goes through the spreads of a definition in order and, from each fragment met for the first time, into
the spreads of that fragment before going on. The walk knows the path on which it stands and the
fragments it has met; it stops at a name that is not indexed, and at one that is on its path. -/

namespace QueryRegistry

inductive SpreadError where
  | unknown (name : String)
  | cycle (path : List String)
  deriving DecidableEq, Repr

/-- A walk ends early at a fault, or when its fuel is used up. -/
inductive Halt where
  | exhausted
  | fault (error : SpreadError)
  deriving DecidableEq, Repr

namespace FragmentIndex

variable (index : FragmentIndex)

/-- The part of the path that leads from a name on it back to that name. -/
def cyclePath (path : List String) (name : String) : List String :=
  path.dropWhile (· ≠ name) ++ [name]

/-- One spread of a walk: `enter` is the walk through the spreads of a fragment. -/
def visit (enter : List String → List String → FragmentTable → Except Halt FragmentTable)
    (path : List String) (used : FragmentTable) (name : String) : Except Halt FragmentTable :=
  if name ∈ path then .error (.fault (.cycle (cyclePath path name)))
  else if used.contains name then .ok used
  else
    match index.find? name with
    | none => .error (.fault (.unknown name))
    | some fragment => enter (path ++ [name]) fragment.spreads (used.insert name fragment)

/-- The walk through the names in the last list, with the fragments met so far. The fuel bounds how
deep walks stand inside one another. -/
def walk : Nat → List String → List String → FragmentTable → Except Halt FragmentTable
  | 0, _, _, _ => .error .exhausted
  | fuel + 1, path, names, used => names.foldlM (visit index (walk fuel) path) used

def unmet (used : FragmentTable) : List String :=
  index.keys.filter fun name => !used.contains name

variable {index}

theorem contains_of_walk {fuel : Nat} {path names : List String} {used used' : FragmentTable}
    {key : String} (h : walk index fuel path names used = .ok used')
    (hk : used.contains key = true) : used'.contains key = true := by
  induction fuel generalizing path names used used' with
  | zero => simp [walk] at h
  | succ fuel ih =>
    rw [walk] at h
    induction names generalizing used with
    | nil =>
      simp only [List.foldlM_nil, pure, Except.pure, Except.ok.injEq] at h
      exact h ▸ hk
    | cons name rest ihn =>
      simp only [List.foldlM_cons, bind, Except.bind] at h
      split at h
      · simp at h
      next met hv =>
        refine ihn h ?_
        unfold visit at hv
        split at hv
        · simp at hv
        · split at hv
          · simp only [Except.ok.injEq] at hv
            exact hv ▸ hk
          · split at hv
            · simp at hv
            · exact ih hv (by simp [Table.contains_insert, hk])

theorem length_filter_le_of_imp {α : Type} {p q : α → Bool} {xs : List α}
    (h : ∀ x ∈ xs, p x = true → q x = true) : (xs.filter p).length ≤ (xs.filter q).length := by
  simpa [List.countP_eq_length_filter] using List.countP_mono_left h

theorem length_filter_lt_of_imp {α : Type} {p q : α → Bool} {xs : List α} {a : α}
    (h : ∀ x ∈ xs, p x = true → q x = true) (ha : a ∈ xs) (hp : p a = false) (hq : q a = true) :
    (xs.filter p).length < (xs.filter q).length := by
  induction xs with
  | nil => simp at ha
  | cons x xs ih =>
    have hle := length_filter_le_of_imp fun y hy => h y (List.mem_cons_of_mem _ hy)
    rcases List.mem_cons.mp ha with rfl | ha
    · simp only [List.filter_cons, hp, hq, if_true, Bool.false_eq_true, if_false, List.length_cons]
      omega
    · have hlt := ih (fun y hy => h y (List.mem_cons_of_mem _ hy)) ha
      have hx := h x List.mem_cons_self
      rw [List.filter_cons, List.filter_cons]
      split
      next hp => rw [if_pos (hx hp)]; exact Nat.succ_lt_succ hlt
      next =>
        split
        · exact Nat.lt_succ_of_lt hlt
        · exact hlt

theorem length_unmet_le {used used' : FragmentTable}
    (h : ∀ key, used.contains key = true → used'.contains key = true) :
    (unmet index used').length ≤ (unmet index used).length := by
  refine length_filter_le_of_imp fun key _ hk => ?_
  cases hu : used.contains key
  · rfl
  · rw [h key hu] at hk
    exact hk

theorem length_unmet_insert {used : FragmentTable} {name : String} {fragment : Fragment}
    (hf : index.find? name = some fragment) (hu : used.contains name = false) :
    (unmet index (used.insert name fragment)).length < (unmet index used).length := by
  refine length_filter_lt_of_imp (fun key _ hk => ?_) (Table.mem_keys_of_find? hf) ?_ ?_
  · rw [Table.contains_insert] at hk
    cases hc : used.contains key
    · rfl
    · simp [hc] at hk
  · simp [Table.contains_insert]
  · simp [hu]

/-- A walk with more fuel than there are names left to meet comes to an end. -/
theorem walk_ne_exhausted {fuel : Nat} {path names : List String} {used : FragmentTable}
    (h : (unmet index used).length < fuel) :
    walk index fuel path names used ≠ .error .exhausted := by
  induction fuel generalizing path names used with
  | zero => simp at h
  | succ fuel ih =>
    rw [walk]
    induction names generalizing used with
    | nil => simp [pure, Except.pure]
    | cons name rest ihn =>
      simp only [List.foldlM_cons, bind, Except.bind]
      split
      next halt hv =>
        rintro ⟨⟩
        unfold visit at hv
        split at hv
        · simp at hv
        · split at hv
          · simp at hv
          next hu =>
            split at hv
            · simp at hv
            next fragment hf =>
              have hlt := length_unmet_insert hf (Bool.eq_false_iff.mpr hu)
              exact ih (by omega) hv
      next met hv =>
        refine ihn (Nat.lt_of_le_of_lt (length_unmet_le fun key hk => ?_) h)
        have hw : walk index (fuel + 1) path [name] used = .ok met := by
          simp [walk, hv, pure, Except.pure, bind, Except.bind]
        exact contains_of_walk hw hk

theorem length_unmet_empty : (unmet index Table.empty).length = index.size := by
  rw [unmet, List.filter_eq_self.mpr (by simp [Table.contains]), Table.length_keys]

end FragmentIndex

end QueryRegistry
