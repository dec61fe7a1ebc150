import QueryRegistry.Proofs.Fragment.Calls
import QueryRegistry.Proofs.Fragment.Faults

/-! What holds all along a walk. Its calls share a path and a record of what has been met, and change
both: a name goes on the path before the call for it and comes off behind it. Wherever a call stands
among its spreads, the path is a way along spreads that comes to no name twice, and what is on record
and off the path is finished. A call that returns leaves the path as it found it and has put what it
met behind what was on record. -/

namespace QueryRegistry

namespace FragmentIndex

structure Shared where
  path : List String
  met : FragmentTable

namespace Shared

def start (definition : Executable) : Shared := ⟨definition.startPath, Table.empty⟩

/-- Before the call for a fragment, its name goes on the path and the fragment on record. -/
def enter (shared : Shared) (name : String) (fragment : Fragment) : Shared :=
  ⟨shared.path ++ [name], shared.met.insert name fragment⟩

def leave (shared : Shared) : Shared := { shared with path := shared.path.dropLast }

end Shared

variable (index : FragmentIndex)

/-- One spread of a walk that hands on what its calls share: `call` is the call for a fragment. -/
def sharedVisit (call : List String → Shared → Except Halt Shared) (shared : Shared)
    (name : String) : Except Halt Shared :=
  if name ∈ shared.path then .error (.fault (.cycle (cyclePath shared.path name)))
  else if shared.met.contains name then .ok shared
  else
    match index.find? name with
    | none => .error (.fault (.unknown name))
    | some fragment => (call fragment.spreads (shared.enter name fragment)).map Shared.leave

/-- The walk with one path for all its calls, where `walk` gives each call a path of its own. -/
def sharedWalk : Nat → List String → Shared → Except Halt Shared
  | 0, _, _ => .error .exhausted
  | fuel + 1, names, shared => names.foldlM (sharedVisit index (sharedWalk fuel)) shared

variable {index} {definition : Executable} {path names : List String} {met met' : FragmentTable}
  {shared after : Shared} {name : String}

section Sharing

theorem sharedVisit_eq {call : List String → Shared → Except Halt Shared}
    {enter : List String → List String → FragmentTable → Except Halt FragmentTable}
    (h : ∀ names shared, call names shared =
      (enter shared.path names shared.met).map (Shared.mk shared.path))
    (shared : Shared) (name : String) :
    sharedVisit index call shared name =
      (visit index enter shared.path shared.met name).map (Shared.mk shared.path) := by
  unfold sharedVisit visit
  split
  · rfl
  · split
    · rfl
    · cases index.find? name with
      | none => rfl
      | some fragment =>
        dsimp only
        rw [h, Shared.enter]
        cases enter (shared.path ++ [name]) fragment.spreads (shared.met.insert name fragment) with
        | error halt => rfl
        | ok met => simp [Except.map, Shared.leave]

theorem sharedWalk_eq (fuel : Nat) (names : List String) (shared : Shared) :
    sharedWalk index fuel names shared =
      (walk index fuel shared.path names shared.met).map (Shared.mk shared.path) := by
  induction fuel generalizing names shared with
  | zero => rfl
  | succ fuel ih =>
    rw [sharedWalk, walk]
    induction names generalizing shared with
    | nil => rfl
    | cons name rest ihn =>
      rw [List.foldlM_cons, List.foldlM_cons, sharedVisit_eq ih]
      cases visit index (walk index fuel) shared.path shared.met name with
      | error halt => rfl
      | ok met => exact ihn ⟨shared.path, met⟩

theorem eq_ok_of_map_mk {outcome : Except Halt FragmentTable}
    (h : outcome.map (Shared.mk path) = .ok after) :
    after.path = path ∧ outcome = .ok after.met := by
  cases outcome with
  | error halt => simp [Except.map] at h
  | ok met =>
    obtain rfl : ⟨path, met⟩ = after := Except.ok.inj h
    exact ⟨rfl, rfl⟩

end Sharing

section Growth

theorem prefix_of_visit
    {enter : List String → List String → FragmentTable → Except Halt FragmentTable}
    (ih : ∀ {path names met met'}, enter path names met = .ok met' → met.entries <+: met'.entries)
    (h : visit index enter path met name = .ok met') : met.entries <+: met'.entries := by
  rcases visit_cases index path met name with
    ⟨-, hv⟩ | ⟨-, -, hv⟩ | ⟨-, -, -, hv⟩ | ⟨fragment, -, hm, -, hv⟩
  · simp [hv] at h
  · rw [hv, Except.ok.injEq] at h
    exact h ▸ List.prefix_rfl
  · simp [hv] at h
  · rw [hv] at h
    exact (Table.entries_prefix_insert fragment hm).trans (ih h)

theorem prefix_of_walk {fuel : Nat} (h : walk index fuel path names met = .ok met') :
    met.entries <+: met'.entries := by
  induction fuel generalizing path names met met' with
  | zero => simp [walk] at h
  | succ fuel ih =>
    induction names generalizing met with
    | nil =>
      rw [walk_nil, Except.ok.injEq] at h
      exact h ▸ List.prefix_rfl
    | cons name rest ihn =>
      rw [walk_cons] at h
      cases hv : visit index (walk index fuel) path met name with
      | error halt => simp [hv, Except.bind] at h
      | ok between =>
        rw [hv] at h
        exact (prefix_of_visit ih hv).trans (ihn h)

end Growth

/-- The walk from a definition comes to stand in one of its calls with these names ahead. A call stands
before all its spreads when it begins, and behind each that it has passed. -/
inductive Stands (index : FragmentIndex) (definition : Executable) : List String → Shared → Prop
  | start : Stands index definition definition.spreads (Shared.start definition)
  | enter {name : String} {rest : List String} {shared : Shared} {fragment : Fragment}
      (stands : Stands index definition (name :: rest) shared) (off : name ∉ shared.path)
      (fresh : name ∉ shared.met.keys) (indexed : index.find? name = some fragment) :
      Stands index definition fragment.spreads (shared.enter name fragment)
  | pass (fuel : Nat) {name : String} {rest : List String} {shared after : Shared}
      (stands : Stands index definition (name :: rest) shared)
      (passed : sharedVisit index (sharedWalk index fuel) shared name = .ok after) :
      Stands index definition rest after

/-- What holds of the path and of the record wherever a walk stands. The path comes to no name twice
and each name on it spreads the next; all of them are on record, but for the name of the definition
itself. The record holds entries of the index. What is on record and off the path is finished: it
spreads only what is on record, and leads to nothing on the path. -/
structure WalkInvariant (index : FragmentIndex) (definition : Executable) (shared : Shared) :
    Prop where
  once : shared.path.Nodup
  linked : shared.path.IsChain (Spreads index definition)
  recorded : ∀ name ∈ shared.path, definition.fragmentName? ≠ some name → name ∈ shared.met.keys
  indexed : ∀ name fragment, shared.met.find? name = some fragment →
    index.find? name = some fragment
  closed : ∀ name ∈ shared.met.keys, name ∉ shared.path →
    ∀ next, Leads index.find? name next → next ∈ shared.met.keys
  apart : ∀ name ∈ shared.met.keys, name ∉ shared.path →
    ∀ other, Relation.TransGen (Leads index.find?) name other → other ∉ shared.path

/-- What each step of a walk keeps. With the names ahead it is known that the path can go on, and with
the runs of the plain walk that what is finished stays so on a longer path. -/
structure Underway (index : FragmentIndex) (definition : Executable) (names : List String)
    (shared : Shared) : Prop where
  trail : Trail index definition shared.path names
  record : Recorded index shared.path shared.met
  listed : ∀ name ∈ shared.path, definition.fragmentName? ≠ some name → name ∈ shared.met.keys

theorem underway_start (index : FragmentIndex) (definition : Executable) :
    Underway index definition definition.spreads (Shared.start definition) where
  trail := trail_start index definition
  record := recorded_empty index definition.startPath
  listed := fun _ hx hn => absurd (mem_startPath.mp hx) hn

namespace Underway

theorem enter {fragment : Fragment} (h : Underway index definition (name :: names) shared)
    (hp : name ∉ shared.path) (hm : name ∉ shared.met.keys)
    (hf : index.find? name = some fragment) :
    Underway index definition fragment.spreads (shared.enter name fragment) where
  trail := h.trail.enter hp hf
  record := h.record.enter hm hf
  listed := fun x hx hn => by
    rw [Shared.enter, Table.keys_insert, if_neg hm]
    rcases List.mem_append.mp hx with hx | hx
    · exact List.mem_append_left _ (h.listed x hx hn)
    · exact List.mem_append_right _ hx

theorem pass {fuel : Nat} (h : Underway index definition (name :: names) shared)
    (hv : sharedVisit index (sharedWalk index fuel) shared name = .ok after) :
    Underway index definition names after := by
  rw [sharedVisit_eq (sharedWalk_eq fuel)] at hv
  obtain ⟨hpath, hmet⟩ := eq_ok_of_map_mk hv
  have hfollows := visit_follows (fun hr => walk_follows fuel hr) h.record name
  obtain ⟨-, -, -, hrecord⟩ := hfollows.success hmet
  have hgrown := prefix_of_visit prefix_of_walk hmet
  refine ⟨hpath ▸ h.trail.behind, hpath ▸ hrecord, fun x hx hn => ?_⟩
  exact Table.mem_keys_of_prefix hgrown (h.listed x (hpath ▸ hx) hn)

theorem invariant (h : Underway index definition names shared) :
    WalkInvariant index definition shared where
  once := h.trail.once
  linked := h.trail.linked
  recorded := h.listed
  indexed := fun _ _ hf => h.record.indexed hf
  closed := fun x hx hp next ⟨found, hs, hn⟩ => by
    obtain ⟨fragment, hf⟩ := Table.mem_keys_iff.mp hx
    obtain ⟨inner, hi, hsub⟩ := h.record.finished hf hp
    obtain rfl : fragment = found := Option.some.inj ((h.record.indexed hf).symm.trans hs)
    exact hsub next (hi.names_subset next hn)
  apart := fun x hx hp other ho hm => by
    obtain ⟨fragment, hf⟩ := Table.mem_keys_iff.mp hx
    obtain ⟨inner, hi, -⟩ := h.record.finished hf hp
    -- The plain walk through `x` emits all to which `x` leads, and nothing that is on its path.
    have hin : other ∈ inner :=
      hi.mem_iff.mpr ((transGen_iff_reachesFrom (h.record.indexed hf)).mp ho)
    exact hi.off_path other hin (List.mem_append_left _ hm)

end Underway

theorem Stands.underway (h : Stands index definition names shared) :
    Underway index definition names shared := by
  induction h with
  | start => exact underway_start index definition
  | enter _ off fresh indexed ih => exact ih.enter off fresh indexed
  | pass fuel _ passed ih => exact ih.pass passed

theorem stands_of_mem_callsAt {fuel depth : Nat} {call : Call}
    (ih : ∀ call : Call, Stands index definition call.names ⟨call.path, call.met⟩ →
      ∀ c ∈ calls index fuel call, Stands index definition c.names ⟨c.path, c.met⟩)
    (hs : Stands index definition names ⟨path, met⟩)
    (h : call ∈ callsAt index fuel (calls index fuel) depth path names met) :
    Stands index definition call.names ⟨call.path, call.met⟩ := by
  induction names generalizing met with
  | nil => simp [callsAt] at h
  | cons name rest ihn =>
    rw [callsAt, List.mem_append] at h
    rcases h with h | h
    · obtain ⟨first, hfirst, h⟩ := List.mem_flatMap.mp h
      rw [Option.mem_toList] at hfirst
      rcases callAt_cases index depth path met name with
        ⟨hc, -⟩ | ⟨hc, -⟩ | ⟨fragment, hp, hm, hf, hc, -⟩
      · simp [hc] at hfirst
      · simp [hc] at hfirst
      · obtain rfl := Option.some.inj (hc.symm.trans hfirst)
        exact ih _ (hs.enter hp hm hf) call h
    · split at h
      next met' hv =>
        have hpassed : sharedVisit index (sharedWalk index fuel) ⟨path, met⟩ name =
            .ok ⟨path, met'⟩ := by
          rw [sharedVisit_eq (sharedWalk_eq fuel), hv]
          rfl
        exact ihn (hs.pass fuel hpassed) h
      · simp at h

theorem stands_of_mem_calls {fuel : Nat} {call c : Call}
    (hs : Stands index definition call.names ⟨call.path, call.met⟩) (h : c ∈ calls index fuel call) :
    Stands index definition c.names ⟨c.path, c.met⟩ := by
  induction fuel generalizing call c with
  | zero =>
    obtain rfl : c = call := by simpa [calls] using h
    exact hs
  | succ fuel ih =>
    rw [calls] at h
    rcases List.mem_cons.mp h with rfl | h
    · exact hs
    · exact stands_of_mem_callsAt (fun call hs c hc => ih hs hc) hs h

/-- Wherever a walk stands the invariant holds, and all its calls begin where it stands. A walk that
shares its path does what the walk does that hands it down; and a call that returns, wherever it was
made, leaves the path as it found it and has put all that it met behind what was on record. -/
theorem invariant_along_walk (index : FragmentIndex) (definition : Executable) :
    (∀ names shared, Stands index definition names shared →
      WalkInvariant index definition shared) ∧
    (∀ fuel, ∀ call ∈ calls index fuel (outerCall definition),
      Stands index definition call.names ⟨call.path, call.met⟩) ∧
    ∀ fuel names shared,
      sharedWalk index fuel names shared =
        (walk index fuel shared.path names shared.met).map (Shared.mk shared.path) ∧
      ∀ after, sharedWalk index fuel names shared = .ok after →
        after.path = shared.path ∧ shared.met.entries <+: after.met.entries := by
  refine ⟨fun names shared h => h.underway.invariant,
    fun fuel call h => stands_of_mem_calls .start h,
    fun fuel names shared => ⟨sharedWalk_eq fuel names shared, fun after h => ?_⟩⟩
  rw [sharedWalk_eq] at h
  obtain ⟨hpath, hmet⟩ := eq_ok_of_map_mk h
  exact ⟨hpath, prefix_of_walk hmet⟩

section Outline

/-- What is indexed under the name of the outline spreads nothing. -/
def notesIndex : FragmentIndex :=
  .ofFragments [spreadingFragment "Outline" [], spreadingFragment "Part" ["Leaf"],
    spreadingFragment "Leaf" [], spreadingFragment "Note" ["Leaf", "Outline"]]

def outline : Executable := .fragment (spreadingFragment "Outline" ["Part", "Note"])

theorem invariant_along_outline :
    (∃ shared, Stands notesIndex outline ["Outline"] shared ∧ shared.path = ["Outline", "Note"] ∧
      shared.met.keys = ["Part", "Leaf", "Note"] ∧ WalkInvariant notesIndex outline shared) ∧
    (∃ call ∈ calls notesIndex 5 (outerCall outline), call.path = ["Outline", "Part", "Leaf"] ∧
      Stands notesIndex outline call.names ⟨call.path, call.met⟩) ∧
    ∃ shared after, Stands notesIndex outline ["Leaf"] shared ∧
      sharedWalk notesIndex 2 ["Leaf"] shared = .ok after ∧ after.path = shared.path ∧
      after.met.keys = ["Part", "Leaf"] ∧ shared.met.entries <+: after.met.entries := by
  have hlaw := invariant_along_walk notesIndex outline
  have hstart : Stands notesIndex outline ["Part", "Note"] (Shared.start outline) := .start
  refine ⟨?_, ?_, ?_⟩
  · have hnote := (hstart.pass 2 rfl).enter (by decide) (by decide) rfl
    have hleaf := hnote.pass 0 rfl
    exact ⟨_, hleaf, rfl, rfl, hlaw.1 _ _ hleaf⟩
  · have hcalls : ((calls notesIndex 5 (outerCall outline))[2]?).map Call.path =
        some ["Outline", "Part", "Leaf"] := rfl
    obtain ⟨call, hcall, hpath⟩ := Option.map_eq_some_iff.mp hcalls
    have hmem := List.mem_of_getElem? hcall
    exact ⟨call, hmem, hpath, hlaw.2.1 5 call hmem⟩
  · have hpart := hstart.enter (by decide) (by decide) rfl
    have hreturn := fun shared => (hlaw.2.2 2 ["Leaf"] shared).2
    exact ⟨_, _, hpart, rfl, (hreturn _ _ rfl).1, rfl, (hreturn _ _ rfl).2⟩

end Outline

end FragmentIndex

end QueryRegistry
