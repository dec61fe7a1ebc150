import Mathlib.Data.List.Chain
import QueryRegistry.Proofs.Fragment.Reachability

/-! What is reported when the fragments of a definition cannot be collected. A cycle that is reported is
one that can be reached, with each of its names once and nothing else; a name that is reported as
unknown is not indexed, and something that can be reached spreads it. -/

namespace QueryRegistry

namespace FragmentIndex

/-- What stands under the first name spreads the second. Under the name of the definition from which a
walk starts stands that definition, whatever the index holds, and under others what the index holds. -/
def Spreads (index : FragmentIndex) (definition : Executable) (a b : String) : Prop :=
  if definition.fragmentName? = some a then b ∈ definition.spreads else Leads index.find? a b

/-- A way along the edges from a name back to itself that comes to no name twice before. -/
structure SimpleCycle (edge : String → String → Prop) (path : List String) : Prop where
  long : 2 ≤ path.length
  closed : path.getLast? = path.head?
  once : path.dropLast.Nodup
  linked : path.IsChain edge

/-- The names are spread by the definition or by a fragment that can be reached from it. -/
def SpreadAround (index : FragmentIndex) (definition : Executable) (names : List String) : Prop :=
  names ⊆ definition.spreads ∨
    ∃ a, Reaches index.find? definition a ∧ ∀ x ∈ names, Leads index.find? a x

/-- A path on which the walk from a definition can stand, with the names that lie ahead of it. -/
structure Trail (index : FragmentIndex) (definition : Executable) (path names : List String) :
    Prop where
  once : path.Nodup
  linked : path.IsChain (Spreads index definition)
  started : ∀ own, definition.fragmentName? = some own → own ∈ path
  met : ∀ x ∈ path, Reaches index.find? definition x ∨ definition.fragmentName? = some x
  onward : ∀ last ∈ path.getLast?, ∀ x ∈ names, Spreads index definition last x
  around : SpreadAround index definition names

variable {index : FragmentIndex} {definition : Executable} {path names : List String} {name : String}

theorem mem_startPath : name ∈ definition.startPath ↔ definition.fragmentName? = some name := by
  simp [Executable.startPath]

theorem trail_start (index : FragmentIndex) (definition : Executable) :
    Trail index definition definition.startPath definition.spreads where
  once := by cases hn : definition.fragmentName? <;> simp [Executable.startPath, hn]
  linked := by cases hn : definition.fragmentName? <;> simp [Executable.startPath, hn]
  started := fun _ hn => mem_startPath.mpr hn
  met := fun _ hx => .inr (mem_startPath.mp hx)
  onward := fun last hl x hx => by
    have hown := mem_startPath.mp (List.mem_of_mem_getLast? hl)
    rwa [Spreads, if_pos hown]
  around := .inl (List.Subset.refl _)

theorem SpreadAround.reaches (h : SpreadAround index definition names) (hx : name ∈ names) :
    Reaches index.find? definition name := by
  rcases h with h | ⟨a, ⟨first, hfirst, hr⟩, hl⟩
  · exact .of_mem (h hx)
  · exact ⟨first, hfirst, hr.tail (hl name hx)⟩

namespace Trail

theorem behind (h : Trail index definition path (name :: names)) :
    Trail index definition path names where
  once := h.once
  linked := h.linked
  started := h.started
  met := h.met
  onward := fun last hl x hx => h.onward last hl x (List.mem_cons_of_mem _ hx)
  around := h.around.imp (fun hs _ hx => hs (List.mem_cons_of_mem _ hx))
    fun ⟨a, ha, hl⟩ => ⟨a, ha, fun x hx => hl x (List.mem_cons_of_mem _ hx)⟩

theorem isChain_concat (h : Trail index definition path (name :: names)) :
    (path ++ [name]).IsChain (Spreads index definition) := by
  refine List.isChain_append.mpr ⟨h.linked, List.isChain_singleton _, fun last hl x hx => ?_⟩
  obtain rfl : name = x := by simpa using hx
  exact h.onward last hl name List.mem_cons_self

theorem enter {fragment : Fragment} (h : Trail index definition path (name :: names))
    (hp : name ∉ path) (hf : index.find? name = some fragment) :
    Trail index definition (path ++ [name]) fragment.spreads where
  once := List.nodup_append.mpr ⟨h.once, List.nodup_singleton _, fun a ha b hb e =>
    hp (List.mem_singleton.mp hb ▸ e ▸ ha)⟩
  linked := h.isChain_concat
  started := fun own hn => List.mem_append_left _ (h.started own hn)
  met := fun x hx => by
    rcases List.mem_append.mp hx with hx | hx
    · exact h.met x hx
    · obtain rfl := List.mem_singleton.mp hx
      exact .inl (h.around.reaches List.mem_cons_self)
  onward := fun last hl x hx => by
    obtain rfl : name = last := by simpa using hl
    have hown : definition.fragmentName? ≠ some name := fun hn => hp (h.started name hn)
    rw [Spreads, if_neg hown]
    exact ⟨fragment, hf, hx⟩
  around := .inr ⟨name, h.around.reaches List.mem_cons_self, fun x hx => ⟨fragment, hf, hx⟩⟩

end Trail

theorem cyclePath_of_split {before behind : List String} (hb : name ∉ before) :
    cyclePath (before ++ name :: behind) name = name :: behind ++ [name] := by
  have hpos : ∀ x ∈ before, decide (x ≠ name) = true := fun x hx => by
    simpa using fun e : x = name => hb (e ▸ hx)
  rw [cyclePath, List.dropWhile_append_of_pos hpos, List.dropWhile_cons_of_neg (by simp)]

theorem Trail.simpleCycle (h : Trail index definition path (name :: names)) (hp : name ∈ path) :
    SimpleCycle (Spreads index definition) (cyclePath path name) ∧
      (cyclePath path name).head? = some name := by
  obtain ⟨before, behind, rfl⟩ := List.mem_iff_append.mp hp
  have hb : name ∉ before := fun hm =>
    (List.nodup_append.mp h.once).2.2 name hm name List.mem_cons_self rfl
  rw [cyclePath_of_split hb]
  refine ⟨⟨by simp, by rw [List.getLast?_concat, List.cons_append, List.head?_cons], ?_, ?_⟩, rfl⟩
  · rw [List.dropLast_concat]
    exact h.once.sublist (List.sublist_append_right _ _)
  · have hlinked := h.isChain_concat
    rw [List.append_assoc, List.cons_append] at hlinked
    exact (List.isChain_split.mp hlinked).2

/-- What is said of a definition by the fault that keeps its fragments from being collected. -/
def Genuine (index : FragmentIndex) (definition : Executable) : SpreadError → Prop
  | .cycle path => SimpleCycle (Spreads index definition) path ∧
    ∃ first, path.head? = some first ∧
      (Reaches index.find? definition first ∨ definition.fragmentName? = some first)
  | .unknown name => index.find? name = none ∧
    (name ∈ definition.spreads ∨
      ∃ a, Reaches index.find? definition a ∧ Leads index.find? a name)

theorem Faults.genuine {error : SpreadError} (h : Faults index path names error)
    (ht : Trail index definition path names) : Genuine index definition error := by
  induction h with
  | @cycle path rest name on =>
    obtain ⟨hcycle, hfirst⟩ := ht.simpleCycle on
    exact ⟨hcycle, name, hfirst, ht.met name on⟩
  | unknown off absent =>
    refine ⟨absent, ht.around.imp (fun hs => hs List.mem_cons_self) ?_⟩
    rintro ⟨a, ha, hl⟩
    exact ⟨a, ha, hl _ List.mem_cons_self⟩
  | inside off indexed _ ih => exact ih (ht.enter off indexed)
  | behind _ _ _ _ ih => exact ih ht.behind

/-- A fault that is reported is there. A cycle closes where it begins and comes to each of its names
once, each spreads the next, and its first name can be reached or is that of the definition; a name
that is unknown is spread by the definition or by a fragment that can be reached. -/
theorem genuine_of_used_eq_error {error : SpreadError}
    (h : index.used definition = .error error) : Genuine index definition error :=
  (faults_of_used h).genuine (trail_start index definition)

section Draft

def draftIndex : FragmentIndex :=
  .ofFragments [spreadingFragment "Draft" [], spreadingFragment "Part" ["Leaf", "Draft"],
    spreadingFragment "Leaf" [], spreadingFragment "Loose" ["Leaf", "Nowhere"]]

/-- A fragment that spreads more than the one that is indexed under its name. -/
def draft : Executable := .fragment (spreadingFragment "Draft" ["Leaf", "Part"])

def looseQuery : Executable := .operation (spreadingQuery none ["Leaf", "Loose"])

theorem genuine_draft :
    (draftIndex.used draft = .error (.cycle ["Draft", "Part", "Draft"]) ∧
      Genuine draftIndex draft (.cycle ["Draft", "Part", "Draft"])) ∧
    draftIndex.used looseQuery = .error (.unknown "Nowhere") ∧
      Genuine draftIndex looseQuery (.unknown "Nowhere") :=
  ⟨⟨rfl, genuine_of_used_eq_error rfl⟩, rfl, genuine_of_used_eq_error rfl⟩

end Draft

end FragmentIndex

end QueryRegistry
