import QueryRegistry.Proofs.Fragment.Faults
import QueryRegistry.Proofs.Fragment.Record
import QueryRegistry.Proofs.Fragment.Spreads

/-! The plain walk on the selections themselves. It goes through a set in the order in which it is
written, down into fields and inline fragments, and at a spread into the set of the fragment. The
fragments that a definition uses are those to which it comes. -/

namespace QueryRegistry

namespace FragmentIndex

section Definitions

variable (index : FragmentIndex)

mutual

/-- What is emitted at one selection, or the fault there. -/
def descend (path : List String) : Selection → Except SpreadError (List String)
  | .field _ _ _ _ selections => descendSet path selections
  | .inline _ _ selections => descendSet path selections
  | .spread name _ =>
    if _hp : name ∈ path then .error (.cycle (path.drop (path.idxOf name) ++ [name]))
    else
      match _hf : index.find? name with
      | none => .error (.unknown name)
      | some fragment => (descendSet (path ++ [name]) fragment.selections).map (name :: ·)
termination_by selection => ((offPath index path).length, sizeOf selection)
decreasing_by
  · exact Prod.Lex.right _ (by simp only [Selection.field.sizeOf_spec]; omega)
  · exact Prod.Lex.right _ (by simp only [Selection.inline.sizeOf_spec]; omega)
  · exact Prod.Lex.left _ _ (length_offPath_lt _hf _hp)

def descendSet (path : List String) : Option (List Selection) → Except SpreadError (List String)
  | none => .ok []
  | some selections => descendList path selections
termination_by set => ((offPath index path).length, sizeOf set)
decreasing_by exact Prod.Lex.right _ (by simp)

def descendList (path : List String) : List Selection → Except SpreadError (List String)
  | [] => .ok []
  | selection :: rest =>
    (descend path selection).bind fun here => (descendList path rest).map (here ++ ·)
termination_by selections => ((offPath index path).length, sizeOf selections)
decreasing_by
  · exact Prod.Lex.right _ (by simp only [List.cons.sizeOf_spec]; omega)
  · exact Prod.Lex.right _ (by simp only [List.cons.sizeOf_spec]; omega)

end

/-- The names emitted on the way through a definition. A fragment has its own name on the path. -/
def descent : Executable → Except SpreadError (List String)
  | .operation operation => descendSet index [] operation.selections
  | .fragment fragment => descendSet index [fragment.name] fragment.selections

end Definitions

variable {index : FragmentIndex} {path : List String}

theorem drop_idxOf_eq_cyclePath {name : String} (h : name ∈ path) :
    path.drop (path.idxOf name) ++ [name] = cyclePath path name := by
  obtain ⟨before, behind, rfl, hb⟩ := List.eq_append_cons_of_mem h
  rw [cyclePath_of_split hb, List.idxOf_append_of_notMem hb, List.idxOf_cons_self, Nat.add_zero,
    List.drop_left]

theorem plainWalk_append (names later : List String) :
    plainWalk index path (names ++ later) =
      (plainWalk index path names).bind fun first =>
        (plainWalk index path later).map (first ++ ·) := by
  induction names with
  | nil =>
    rw [plainWalk_nil]
    cases h : plainWalk index path later <;> simp [Except.bind, Except.map, h]
  | cons name rest ih =>
    rw [List.cons_append]
    by_cases hp : name ∈ path
    · rw [plainWalk_cons_of_mem _ hp, plainWalk_cons_of_mem _ hp]
      rfl
    · cases hf : index.find? name with
      | none =>
        rw [plainWalk_cons_of_none _ hp hf, plainWalk_cons_of_none _ hp hf]
        rfl
      | some fragment =>
        rw [plainWalk_cons_of_some _ hp hf, plainWalk_cons_of_some _ hp hf, ih]
        cases plainWalk index (path ++ [name]) fragment.spreads with
        | error error => rfl
        | ok inner =>
          cases plainWalk index path rest with
          | error error => rfl
          | ok first =>
            cases plainWalk index path later <;> simp [Except.bind, Except.map]

section Selections

variable {name : String} (directives : List Directive)

theorem descend_field (label : Option String) (name : String) (arguments : Arguments)
    (selections : Option (List Selection)) :
    descend index path (.field label name arguments directives selections) =
      descendSet index path selections := by
  rw [descend]

theorem descend_inline (condition : Option String) (selections : Option (List Selection)) :
    descend index path (.inline condition directives selections) =
      descendSet index path selections := by
  rw [descend]

theorem descend_spread_of_mem (hp : name ∈ path) :
    descend index path (.spread name directives) = .error (.cycle (cyclePath path name)) := by
  rw [descend, dif_pos hp, drop_idxOf_eq_cyclePath hp]

theorem descend_spread_of_none (hp : name ∉ path) (hf : index.find? name = none) :
    descend index path (.spread name directives) = .error (.unknown name) := by
  rw [descend, dif_neg hp]
  split
  · rfl
  next fragment hsome => simp [hf] at hsome

theorem descend_spread_of_some {fragment : Fragment} (hp : name ∉ path)
    (hf : index.find? name = some fragment) :
    descend index path (.spread name directives) =
      (descendSet index (path ++ [name]) fragment.selections).map (name :: ·) := by
  rw [descend, dif_neg hp]
  split
  next hnone => simp [hf] at hnone
  next other hsome =>
    obtain rfl := Option.some.inj (hf.symm.trans hsome)
    rfl

end Selections

/-- Inside the fragments spread from a path the two walks come to the same. -/
def AgreeInside (index : FragmentIndex) (path : List String) : Prop :=
  ∀ {name fragment}, name ∉ path → index.find? name = some fragment →
    descendSet index (path ++ [name]) fragment.selections =
      plainWalk index (path ++ [name]) fragment.spreads

mutual

theorem descend_eq_of_inside (inside : AgreeInside index path) : ∀ selection : Selection,
    descend index path selection = plainWalk index path selection.spreads
  | .field _ _ _ _ selections => by
    rw [descend_field, Selection.spreads, descendSet_eq_of_inside inside selections]
  | .inline _ _ selections => by
    rw [descend_inline, Selection.spreads, descendSet_eq_of_inside inside selections]
  | .spread name directives => by
    rw [Selection.spreads]
    by_cases hp : name ∈ path
    · rw [descend_spread_of_mem directives hp, plainWalk_cons_of_mem _ hp]
    · cases hf : index.find? name with
      | none => rw [descend_spread_of_none directives hp hf, plainWalk_cons_of_none _ hp hf]
      | some fragment =>
        rw [descend_spread_of_some directives hp hf, inside hp hf, plainWalk_cons_of_some _ hp hf,
          plainWalk_nil]
        cases plainWalk index (path ++ [name]) fragment.spreads <;> simp [Except.bind, Except.map]

theorem descendSet_eq_of_inside (inside : AgreeInside index path) : ∀ set : Option (List Selection),
    descendSet index path set = plainWalk index path (Selection.spreadsOfSet set)
  | none => by rw [descendSet, Selection.spreadsOfSet, plainWalk_nil]
  | some selections => by
    rw [descendSet, Selection.spreadsOfSet, descendList_eq_of_inside inside selections]

theorem descendList_eq_of_inside (inside : AgreeInside index path) : ∀ selections : List Selection,
    descendList index path selections = plainWalk index path (Selection.spreadsOfList selections)
  | [] => by rw [descendList, Selection.spreadsOfList, plainWalk_nil]
  | selection :: rest => by
    rw [descendList, Selection.spreadsOfList, plainWalk_append, descend_eq_of_inside inside selection,
      descendList_eq_of_inside inside rest]

end

theorem descendSet_eq (index : FragmentIndex) (path : List String) (set : Option (List Selection)) :
    descendSet index path set = plainWalk index path (Selection.spreadsOfSet set) := by
  induction hn : (offPath index path).length using Nat.strongRecOn generalizing path set with
  | ind n ih =>
    refine descendSet_eq_of_inside (fun {name fragment} hp hf => ?_) set
    exact ih _ (hn ▸ length_offPath_lt hf hp) _ _ rfl

theorem descent_eq (index : FragmentIndex) (definition : Executable) :
    index.descent definition = plainWalk index definition.startPath definition.spreads := by
  cases definition <;> exact descendSet_eq _ _ _

/-- The fragments that a definition uses are those to which the walk on the selections comes, each
listed where it is met first and paired with its entry in the index; and the faults are those of
that walk. -/
theorem used_eq_descent (index : FragmentIndex) (definition : Executable) :
    (index.used definition).map
        (fun used => used.entries.map fun entry => (entry.1, some entry.2)) =
      (index.descent definition).map
        fun emitted => emitted.eraseDups.map fun name => (name, index.find? name) := by
  rw [descent_eq]
  cases hu : index.used definition with
  | error error =>
    rw [(faults_of_used hu).plainWalk_eq]
    rfl
  | ok used =>
    obtain ⟨emitted, hem, hk, hf⟩ := emits_of_used hu
    rw [hem.plainWalk_eq]
    simp only [Except.map, Except.ok.injEq, Table.map_entries_eq, hk]
    exact List.map_congr_left fun name hn => by rw [hf name (List.mem_eraseDups.mp hn)]

section Tangle

/-- Two fragments that share a third, and two that spread each other. -/
def tangle : FragmentIndex :=
  .ofFragments [spreadingFragment "A" ["C"], spreadingFragment "B" ["C"], spreadingFragment "C" [],
    spreadingFragment "Loop" ["C", "Back"], spreadingFragment "Back" ["Loop"]]

def tangledQuery (names : List String) : Executable := .operation (spreadingQuery none names)

theorem used_tangledQuery :
    tangle.descent (tangledQuery ["A", "B"]) = .ok ["A", "C", "B", "C"] ∧
    (tangle.used (tangledQuery ["A", "B"])).map
        (fun used => used.entries.map fun entry => (entry.1, some entry.2)) =
      .ok [("A", tangle.find? "A"), ("C", tangle.find? "C"), ("B", tangle.find? "B")] ∧
    (tangle.used (tangledQuery ["A", "Loop"])).map
        (fun used => used.entries.map fun entry => (entry.1, some entry.2)) =
      .error (.cycle ["Loop", "Back", "Loop"]) ∧
    (tangle.used (.fragment (spreadingFragment "Back" ["A", "Loop"]))).map
        (fun used => used.entries.map fun entry => (entry.1, some entry.2)) =
      .error (.cycle ["Back", "Loop", "Back"]) ∧
    (tangle.used (tangledQuery ["A", "Nowhere", "Loop"])).map
        (fun used => used.entries.map fun entry => (entry.1, some entry.2)) =
      .error (.unknown "Nowhere") := by
  have hinto : ∀ name names, tangle.find? name = some (spreadingFragment name names) →
      ∀ path, name ∉ path → descend tangle path (.spread name []) =
        (descendSet tangle (path ++ [name]) (some (spreadingSet names))).map (name :: ·) :=
    fun _ _ hf _ hp => descend_spread_of_some [] hp hf
  have hA := hinto "A" ["C"] rfl
  have hB := hinto "B" ["C"] rfl
  have hC := hinto "C" [] rfl
  have hLoop := hinto "Loop" ["C", "Back"] rfl
  have hBack := hinto "Back" ["Loop"] rfl
  have hNowhere : ∀ path, "Nowhere" ∉ path →
      descend tangle path (.spread "Nowhere" []) = .error (.unknown "Nowhere") :=
    fun _ hp => descend_spread_of_none [] hp rfl
  have hshared : tangle.descent (tangledQuery ["A", "B"]) = .ok ["A", "C", "B", "C"] := by
    simp [tangledQuery, spreadingQuery, spreadingSet, descent, descendSet, descendList,
      descend_field, descend_inline, Except.bind, Except.map, hA, hB, hC]
  have hcycle : tangle.descent (tangledQuery ["A", "Loop"]) =
      .error (.cycle ["Loop", "Back", "Loop"]) := by
    simp [tangledQuery, spreadingQuery, spreadingSet, descent, descendSet, descendList,
      descend_field, descend_inline, descend_spread_of_mem, cyclePath, Except.bind, Except.map, hA, hC,
      hLoop, hBack]
  have hown : tangle.descent (.fragment (spreadingFragment "Back" ["A", "Loop"])) =
      .error (.cycle ["Back", "Loop", "Back"]) := by
    simp [spreadingFragment, spreadingSet, descent, descendSet, descendList, descend_field,
      descend_inline, descend_spread_of_mem, cyclePath, Except.bind, Except.map, hA, hC, hLoop]
  have hunknown : tangle.descent (tangledQuery ["A", "Nowhere", "Loop"]) =
      .error (.unknown "Nowhere") := by
    simp [tangledQuery, spreadingQuery, spreadingSet, descent, descendSet, descendList,
      descend_field, descend_inline, Except.bind, Except.map, hA, hC, hNowhere]
  refine ⟨hshared, ?_, ?_, ?_, ?_⟩
  · rw [used_eq_descent, hshared]
    rfl
  · rw [used_eq_descent, hcycle]
    rfl
  · rw [used_eq_descent, hown]
    rfl
  · rw [used_eq_descent, hunknown]
    rfl

end Tangle

end FragmentIndex

end QueryRegistry
