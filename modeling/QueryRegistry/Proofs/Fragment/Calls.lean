import Mathlib.Data.List.Perm.Subperm
import QueryRegistry.Proofs.Fragment.LastDefinition
import QueryRegistry.Proofs.Fragment.Record
import QueryRegistry.Proofs.Fragment.Spreads

/-! The calls that a walk makes. A walk calls itself for each fragment that it meets for the first time,
so that there are no more calls than names in the index, and one for the definition itself; and fuel for
as many lets it come to an end. -/

namespace QueryRegistry

namespace FragmentIndex

/-- What a walk is called with. The depth counts the calls in which it stands, itself among them. -/
structure Call where
  depth : Nat
  path : List String
  names : List String
  met : FragmentTable

def Call.name? (call : Call) : Option String := call.path.getLast?

def outerCall (definition : Executable) : Call where
  depth := 1
  path := definition.startPath
  names := definition.spreads
  met := Table.empty

variable (index : FragmentIndex)

/-- The call that is made at a spread, if one is. -/
def callAt (depth : Nat) (path : List String) (met : FragmentTable) (name : String) : Option Call :=
  if name ∈ path ∨ name ∈ met.keys then none
  else (index.find? name).map fun fragment =>
    { depth := depth + 1, path := path ++ [name], names := fragment.spreads,
      met := met.insert name fragment }

/-- The calls that are made at the names one after the other, when `below` are all those that come of
one call. Behind a spread that fails there are none. -/
def callsAt (fuel : Nat) (below : Call → List Call) (depth : Nat) (path : List String) :
    List String → FragmentTable → List Call
  | [], _ => []
  | name :: rest, met =>
    (callAt index depth path met name).toList.flatMap below ++
      match visit index (walk index fuel) path met name with
      | .ok met => callsAt fuel below depth path rest met
      | .error _ => []

def calls : Nat → Call → List Call
  | 0, call => [call]
  | fuel + 1, call =>
    call :: callsAt index fuel (calls fuel) call.depth call.path call.names call.met

variable {index} {path names : List String} {met : FragmentTable} {name : String}

/-- A spread fails or is passed over whatever comes of a call, or else it is the call. -/
theorem callAt_cases (index : FragmentIndex) (depth : Nat) (path : List String) (met : FragmentTable)
    (name : String) :
    (callAt index depth path met name = none ∧
      ∃ error, ∀ enter, visit index enter path met name = .error (.fault error)) ∨
    (callAt index depth path met name = none ∧
      ∀ enter, visit index enter path met name = .ok met) ∨
    ∃ fragment, name ∉ path ∧ name ∉ met.keys ∧ index.find? name = some fragment ∧
      callAt index depth path met name = some ⟨depth + 1, path ++ [name], fragment.spreads,
        met.insert name fragment⟩ ∧
      ∀ enter, visit index enter path met name =
        enter (path ++ [name]) fragment.spreads (met.insert name fragment) := by
  rcases visit_cases index path met name with
    ⟨hp, hv⟩ | ⟨-, hm, hv⟩ | ⟨-, -, hf, hv⟩ | ⟨fragment, hp, hm, hf, hv⟩
  · exact .inl ⟨by simp [callAt, hp], _, hv⟩
  · exact .inr (.inl ⟨by simp [callAt, hm], hv⟩)
  · exact .inl ⟨by simp [callAt, hf], _, hv⟩
  · exact .inr (.inr ⟨fragment, hp, hm, hf, by simp [callAt, hp, hm, hf], hv⟩)

section Fuel

theorem walk_succ_of_ne_exhausted {fuel : Nat}
    (h : walk index fuel path names met ≠ .error .exhausted) :
    walk index (fuel + 1) path names met = walk index fuel path names met := by
  induction fuel generalizing path names met with
  | zero => exact absurd rfl h
  | succ fuel ih =>
    induction names generalizing met with
    | nil => rw [walk_nil, walk_nil]
    | cons name rest ihn =>
      rw [walk_cons] at h
      rw [walk_cons, walk_cons]
      have hvisit : visit index (walk index (fuel + 1)) path met name =
          visit index (walk index fuel) path met name := by
        rcases callAt_cases index 0 path met name with
          ⟨-, error, hv⟩ | ⟨-, hv⟩ | ⟨fragment, -, -, -, -, hv⟩
        · rw [hv, hv]
        · rw [hv, hv]
        · rw [hv, hv]
          refine ih fun he => h ?_
          rw [hv, he]
          rfl
      rw [hvisit]
      cases hv : visit index (walk index fuel) path met name with
      | error halt => rfl
      | ok met' =>
        rw [hv] at h
        exact ihn h

theorem walk_add_of_ne_exhausted {fuel : Nat} (more : Nat)
    (h : walk index fuel path names met ≠ .error .exhausted) :
    walk index (fuel + more) path names met = walk index fuel path names met := by
  induction more with
  | zero => rfl
  | succ more ih =>
    have hne : walk index (fuel + more) path names met ≠ .error .exhausted := by rwa [ih]
    rw [← Nat.add_assoc, walk_succ_of_ne_exhausted hne, ih]

theorem walkFrom_eq_used (index : FragmentIndex) (definition : Executable) :
    walkFrom index definition = (index.used definition).mapError .fault := by
  cases hu : index.used definition with
  | ok used => exact used_eq_ok_iff.mp hu
  | error error => exact used_eq_error_iff.mp hu

end Fuel

section Counting

/-- What holds of the calls that a walk makes inside it, with what it comes to. -/
structure Entered (index : FragmentIndex) (path : List String) (met : FragmentTable)
    (made : List Call) (outcome : Except Halt FragmentTable) : Prop where
  indexed : ∀ call ∈ made, ∃ name fragment, call.name? = some name ∧ name ∉ path ∧
    index.find? name = some fragment ∧ call.names = fragment.spreads
  fresh : (met.keys.map some ++ made.map Call.name?).Nodup
  recorded : ∀ met', outcome = .ok met' →
    met'.keys.map some = met.keys.map some ++ made.map Call.name?

theorem entered_nil {outcome : Except Halt FragmentTable}
    (h : ∀ met', outcome = .ok met' → met' = met) : Entered index path met [] outcome where
  indexed := by simp
  fresh := by
    have hnodup : (met.keys.map some).Nodup := met.nodup_keys.map fun _ _ => Option.some.inj
    simpa using hnodup
  recorded := fun met' he => by simp [h met' he]

theorem Entered.append {met' : FragmentTable} {made later : List Call}
    {outcome : Except Halt FragmentTable} (h : Entered index path met made (.ok met'))
    (hlater : Entered index path met' later outcome) :
    Entered index path met (made ++ later) outcome := by
  have hkeys := h.recorded met' rfl
  refine ⟨fun call hc => ?_, ?_, fun met'' he => ?_⟩
  · rcases List.mem_append.mp hc with hc | hc
    · exact h.indexed call hc
    · exact hlater.indexed call hc
  · have hfresh := hlater.fresh
    rwa [hkeys, List.append_assoc, ← List.map_append] at hfresh
  · rw [hlater.recorded met'' he, hkeys, List.append_assoc, List.map_append]

theorem Entered.leave {fragment : Fragment} {call : Call} {made : List Call}
    {outcome : Except Halt FragmentTable} (hp : name ∉ path) (hm : name ∉ met.keys)
    (hf : index.find? name = some fragment) (hpath : call.path = path ++ [name])
    (hnames : call.names = fragment.spreads) (hmet : call.met = met.insert name fragment)
    (h : Entered index call.path call.met made outcome) :
    Entered index path met (call :: made) outcome := by
  have hname : call.name? = some name := by
    rw [Call.name?, hpath, List.getLast?_concat]
  have hkeys : call.met.keys.map some = met.keys.map some ++ [some name] := by
    rw [hmet, Table.keys_insert, if_neg hm, List.map_append]
    rfl
  refine ⟨fun other hc => ?_, ?_, fun met' he => ?_⟩
  · rcases List.mem_cons.mp hc with rfl | hc
    · exact ⟨name, fragment, hname, hp, hf, hnames⟩
    · obtain ⟨x, f, hx, hxp, hxf, hxs⟩ := h.indexed other hc
      have hoff : x ∉ path := fun hx => hxp (hpath ▸ List.mem_append_left _ hx)
      exact ⟨x, f, hx, hoff, hxf, hxs⟩
  · have hfresh := h.fresh
    rw [hkeys, List.append_assoc] at hfresh
    rwa [List.map_cons, hname]
  · rw [h.recorded met' he, hkeys, List.map_cons, hname, List.append_assoc]
    rfl

theorem calls_eq_cons (index : FragmentIndex) (fuel : Nat) (call : Call) :
    calls index fuel call = call :: (calls index fuel call).tail := by
  cases fuel <;> rfl

theorem entered_callsAt {fuel : Nat}
    (ih : ∀ call : Call, Entered index call.path call.met (calls index fuel call).tail
      (walk index fuel call.path call.names call.met))
    (depth : Nat) (path names : List String) (met : FragmentTable) :
    Entered index path met (callsAt index fuel (calls index fuel) depth path names met)
      (walk index (fuel + 1) path names met) := by
  induction names generalizing met with
  | nil =>
    rw [walk_nil]
    exact entered_nil fun met' he => (Except.ok.inj he).symm
  | cons name rest ihn =>
    rw [walk_cons, callsAt]
    rcases callAt_cases index depth path met name with
      ⟨hc, error, hv⟩ | ⟨hc, hv⟩ | ⟨fragment, hp, hm, hf, hc, hv⟩
    · rw [hc, hv]
      exact entered_nil fun met' he => by simp [Except.bind] at he
    · rw [hc, hv]
      exact ihn met
    · have hcall := (ih ⟨depth + 1, path ++ [name], fragment.spreads,
        met.insert name fragment⟩).leave hp hm hf rfl rfl rfl
      rw [← calls_eq_cons] at hcall
      rw [hc, hv]
      dsimp only at hcall
      rw [Option.toList_some, List.flatMap_singleton]
      cases hw : walk index fuel (path ++ [name]) fragment.spreads (met.insert name fragment) with
      | error halt =>
        rw [hw] at hcall
        simpa [Except.bind] using hcall
      | ok met' =>
        rw [hw] at hcall
        exact hcall.append (ihn met')

theorem entered_calls (index : FragmentIndex) (fuel : Nat) (call : Call) :
    Entered index call.path call.met (calls index fuel call).tail
      (walk index fuel call.path call.names call.met) := by
  induction fuel generalizing call with
  | zero => exact entered_nil fun met' he => by simp [walk] at he
  | succ fuel ih => exact entered_callsAt ih call.depth call.path call.names call.met

/-- No call stands further in than as many calls as there are allow. -/
theorem depth_lt_of_mem_callsAt {fuel : Nat} {call : Call}
    (ih : ∀ call : Call, ∀ c ∈ calls index fuel call,
      c.depth < call.depth + (calls index fuel call).length)
    {depth : Nat}
    (h : call ∈ callsAt index fuel (calls index fuel) depth path names met) :
    call.depth ≤ depth + (callsAt index fuel (calls index fuel) depth path names met).length := by
  induction names generalizing met with
  | nil => simp [callsAt] at h
  | cons name rest ihn =>
    rw [callsAt, List.mem_append] at h
    rw [callsAt, List.length_append]
    rcases h with h | h
    · obtain ⟨first, hfirst, h⟩ := List.mem_flatMap.mp h
      have hfirst' := Option.mem_toList.mp hfirst
      rw [hfirst', Option.toList_some, List.flatMap_singleton]
      have hlt := ih first call h
      have hdepth : first.depth = depth + 1 := by
        rcases callAt_cases index depth path met name with
          ⟨hc, -⟩ | ⟨hc, -⟩ | ⟨fragment, -, -, -, hc, -⟩
        · simp [hc] at hfirst'
        · simp [hc] at hfirst'
        · rw [hc] at hfirst'
          exact (congrArg Call.depth (Option.some.inj hfirst')).symm
      omega
    · split at h
      next met' hv =>
        have hle := ihn h
        omega
      · simp at h

theorem depth_lt_of_mem_calls {fuel : Nat} {call c : Call} (h : c ∈ calls index fuel call) :
    c.depth < call.depth + (calls index fuel call).length := by
  induction fuel generalizing call c with
  | zero =>
    obtain rfl : c = call := by simpa [calls] using h
    simp [calls]
  | succ fuel ih =>
    rw [calls, List.length_cons]
    rw [calls] at h
    rcases List.mem_cons.mp h with rfl | h
    · omega
    · have hle := depth_lt_of_mem_callsAt (fun call c hc => ih hc) h
      omega

end Counting

/-- No definition is walked through by more than one of the calls. The first goes through the spreads of
the definition from which the walk starts, each of the others through those of a fragment that is
indexed; there is at most one more than names in the index, and no more stand in one another. -/
structure CallsBounded (index : FragmentIndex) (definition : Executable) (made : List Call) : Prop where
  once : (made.map Call.name?).Nodup
  indexed : ∀ call ∈ made, call = outerCall definition ∨ ∃ name fragment,
    call.name? = some name ∧ index.find? name = some fragment ∧ call.names = fragment.spreads
  few : made.length ≤ index.size + 1
  shallow : ∀ call ∈ made, call.depth ≤ index.size + 1

theorem Entered.length_le {made : List Call} {outcome : Except Halt FragmentTable}
    (h : Entered index path met made outcome) : made.length ≤ index.size := by
  have hsubset : made.map Call.name? ⊆ index.keys.map some := by
    intro x hx
    obtain ⟨call, hc, rfl⟩ := List.mem_map.mp hx
    obtain ⟨name, fragment, hn, -, hf, -⟩ := h.indexed call hc
    rw [hn]
    exact List.mem_map_of_mem (Table.mem_keys_of_find? hf)
  have hnodup : (made.map Call.name?).Nodup := (List.nodup_append.mp h.fresh).2.1
  have hle := (List.subperm_of_subset hnodup hsubset).length_le
  rwa [List.length_map, List.length_map, Table.length_keys] at hle

theorem callsBounded_calls (index : FragmentIndex) (definition : Executable) (fuel : Nat) :
    CallsBounded index definition (calls index fuel (outerCall definition)) := by
  have h := entered_calls index fuel (outerCall definition)
  have hcons := calls_eq_cons index fuel (outerCall definition)
  have hfew : (calls index fuel (outerCall definition)).length ≤ index.size + 1 := by
    rw [hcons]
    exact Nat.succ_le_succ h.length_le
  refine ⟨?_, fun call hc => ?_, hfew, fun call hc => ?_⟩
  · rw [hcons, List.map_cons, List.nodup_cons]
    refine ⟨fun hm => ?_, (List.nodup_append.mp h.fresh).2.1⟩
    obtain ⟨call, hc, hsame⟩ := List.mem_map.mp hm
    obtain ⟨name, -, hn, hoff, -, -⟩ := h.indexed call hc
    exact hoff (List.mem_of_getLast? (hsame.symm.trans hn))
  · rw [hcons] at hc
    rcases List.mem_cons.mp hc with rfl | hc
    · exact .inl rfl
    · obtain ⟨name, fragment, hn, -, hf, hs⟩ := h.indexed call hc
      exact .inr ⟨name, fragment, hn, hf, hs⟩
  · have hlt := depth_lt_of_mem_calls hc
    have hone : (outerCall definition).depth = 1 := rfl
    omega

theorem map_name?_calls {definition : Executable} {used : FragmentTable}
    (h : index.used definition = .ok used) :
    (calls index (index.size + 1) (outerCall definition)).map Call.name? =
      (outerCall definition).name? :: used.keys.map some := by
  have hwalk := used_eq_ok_iff.mp h
  have hrecorded := (entered_calls index (index.size + 1) (outerCall definition)).recorded used hwalk
  rw [calls_eq_cons, List.map_cons, hrecorded]
  rfl

/-- Whatever the index holds, a walk that has fuel for the definition and for each name in the index
comes to its end, and with more fuel to the same. The calls that it makes are bounded, however much fuel
it has, and if it ends well there is one for the definition and one for each fragment that is used. -/
theorem walk_ends (index : FragmentIndex) (definition : Executable) :
    (∀ more, walk index (index.size + 1 + more) definition.startPath definition.spreads
      Table.empty = (index.used definition).mapError .fault) ∧
    (∀ fuel, CallsBounded index definition (calls index fuel (outerCall definition))) ∧
    ∀ used, index.used definition = .ok used →
      (calls index (index.size + 1) (outerCall definition)).map Call.name? =
        (outerCall definition).name? :: used.keys.map some := by
  refine ⟨fun more => ?_, callsBounded_calls index definition, fun used h => map_name?_calls h⟩
  have hend := walkFrom_ne_exhausted index definition
  rw [← walkFrom_eq_used]
  exact walk_add_of_ne_exhausted more hend

section Diamonds

/-- From the first name four ways lead to the last. -/
def diamonds : FragmentIndex :=
  .ofFragments [spreadingFragment "A" ["B", "C"], spreadingFragment "B" ["D"],
    spreadingFragment "C" ["D"], spreadingFragment "D" ["E", "F"], spreadingFragment "E" ["G"],
    spreadingFragment "F" ["G"], spreadingFragment "G" []]

def diamondQuery : Executable := .operation (spreadingQuery none ["A"])

theorem walk_ends_diamonds : ∃ used, diamonds.used diamondQuery = .ok used ∧
    used.keys = ["A", "B", "D", "E", "G", "F", "C"] ∧
    (calls diamonds 8 (outerCall diamondQuery)).map Call.name? =
      [none, some "A", some "B", some "D", some "E", some "G", some "F", some "C"] := by
  obtain ⟨used, hu⟩ : ∃ used, diamonds.used diamondQuery = .ok used := ⟨_, rfl⟩
  have hk : (diamonds.used diamondQuery).map Table.keys =
      .ok ["A", "B", "D", "E", "G", "F", "C"] := rfl
  rw [hu] at hk
  have hkeys : used.keys = ["A", "B", "D", "E", "G", "F", "C"] := Except.ok.inj hk
  have hcalls := (walk_ends diamonds diamondQuery).2.2 used hu
  rw [hkeys] at hcalls
  exact ⟨used, hu, hkeys, hcalls⟩

end Diamonds

end FragmentIndex

end QueryRegistry
