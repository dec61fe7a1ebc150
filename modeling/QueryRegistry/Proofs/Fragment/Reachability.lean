import Mathlib.Logic.Relation
import QueryRegistry.Proofs.Fragment.LastDefinition
import QueryRegistry.Proofs.Fragment.Record
import QueryRegistry.Proofs.Fragment.Spreads

/-! Reachability in the graph of spreads. The fragments that a definition uses are the names that can
be reached from it, and they can be collected unless one of those names is not indexed, lies on a
cycle, or is the name of the definition itself. -/

namespace QueryRegistry

/-- The fragment of the first name spreads the second, when fragments are looked up as given. -/
def Leads (lookup : String → Option Fragment) (a b : String) : Prop :=
  ∃ fragment, lookup a = some fragment ∧ b ∈ fragment.spreads

theorem leads_iff {lookup : String → Option Fragment} {a b : String} : Leads lookup a b ↔
    ∃ fragment, lookup a = some fragment ∧
      ∃ place, (Executable.fragment fragment).SpreadsAt place b := by
  simp only [← Executable.mem_spreads_iff]
  rfl

def ReachesFrom (lookup : String → Option Fragment) (names : List String) (name : String) : Prop :=
  ∃ first ∈ names, Relation.ReflTransGen (Leads lookup) first name

/-- The names that a definition spreads and those to which their fragments lead. -/
abbrev Reaches (lookup : String → Option Fragment) (definition : Executable) : String → Prop :=
  ReachesFrom lookup definition.spreads

section Graph

variable {lookup : String → Option Fragment} {names : List String} {name x : String}

theorem ReachesFrom.of_mem (h : name ∈ names) : ReachesFrom lookup names name :=
  ⟨name, h, .refl⟩

theorem ReachesFrom.behind {first : String} (h : ReachesFrom lookup names name) :
    ReachesFrom lookup (first :: names) name :=
  h.imp fun _ hh => ⟨List.mem_cons_of_mem _ hh.1, hh.2⟩

theorem ReachesFrom.through {fragment : Fragment} (hn : ReachesFrom lookup names name)
    (hf : lookup name = some fragment) (h : ReachesFrom lookup fragment.spreads x) :
    ReachesFrom lookup names x := by
  obtain ⟨first, hfirst, hr⟩ := hn
  obtain ⟨next, hnext, hx⟩ := h
  exact ⟨first, hfirst, hr.trans (.head ⟨fragment, hf, hnext⟩ hx)⟩

theorem transGen_iff_reachesFrom {fragment : Fragment} (hf : lookup name = some fragment) :
    Relation.TransGen (Leads lookup) name x ↔ ReachesFrom lookup fragment.spreads x := by
  rw [Relation.TransGen.head'_iff]
  constructor
  · rintro ⟨next, ⟨found, hs, hn⟩, hx⟩
    obtain rfl : fragment = found := Option.some.inj (hf.symm.trans hs)
    exact ⟨next, hn, hx⟩
  · rintro ⟨next, hn, hx⟩
    exact ⟨next, ⟨fragment, hf, hn⟩, hx⟩

end Graph

namespace FragmentIndex

variable {index : FragmentIndex} {path names emitted : List String}

theorem Emits.mem_iff (h : Emits index path names emitted) {x : String} :
    x ∈ emitted ↔ ReachesFrom index.find? names x := by
  constructor
  · intro hx
    induction h with
    | nil path => simp at hx
    | @step path rest inner later name fragment off indexed _ _ ihi ihl =>
      rcases List.mem_cons.mp hx with rfl | hx
      · exact .of_mem List.mem_cons_self
      · rcases List.mem_append.mp hx with hx | hx
        · exact (ReachesFrom.of_mem List.mem_cons_self).through indexed (ihi hx)
        · exact (ihl hx).behind
  · rintro ⟨first, hfirst, hr⟩
    induction hr with
    | refl => exact h.names_subset first hfirst
    | tail _ hl ih =>
      obtain ⟨fragment, hf, hm⟩ := hl
      obtain ⟨found, inner, hs, hi, hsub⟩ := h.inside_of_mem ih
      obtain rfl : fragment = found := Option.some.inj (hf.symm.trans hs)
      exact hsub _ (hi.names_subset _ hm)

theorem Emits.acyclic (h : Emits index path names emitted) {x : String} (hx : x ∈ emitted) :
    ¬ Relation.TransGen (Leads index.find?) x x := by
  obtain ⟨fragment, inner, hf, hi, _⟩ := h.inside_of_mem hx
  intro hc
  -- A cycle would bring the run inside `x` to `x` again, which is on its path.
  have hm : x ∈ inner := hi.mem_iff.mpr ((transGen_iff_reachesFrom hf).mp hc)
  exact hi.off_path x hm List.mem_cons_self

/-- A run that fails has come to a name that is not indexed, that was on its path from the start, or
that leads back to itself. -/
theorem Faults.exists_culprit {error : SpreadError} (h : Faults index path names error) :
    ∃ x, ReachesFrom index.find? names x ∧
      (index.find? x = none ∨ x ∈ path ∨ Relation.TransGen (Leads index.find?) x x) := by
  induction h with
  | @cycle path rest name on => exact ⟨name, .of_mem List.mem_cons_self, .inr (.inl on)⟩
  | @unknown path rest name off absent =>
    exact ⟨name, .of_mem List.mem_cons_self, .inl absent⟩
  | @inside path rest name fragment error off indexed _ ih =>
    obtain ⟨x, hx, hc⟩ := ih
    have hreach : ReachesFrom index.find? (name :: rest) x :=
      (ReachesFrom.of_mem List.mem_cons_self).through indexed hx
    rcases hc with hc | hc | hc
    · exact ⟨x, hreach, .inl hc⟩
    · -- The path inside is longer by `name`. If that is where it failed, `name` leads back to itself.
      rcases List.mem_append.mp hc with hc | hc
      · exact ⟨x, hreach, .inr (.inl hc)⟩
      · obtain rfl := List.mem_singleton.mp hc
        exact ⟨x, hreach, .inr (.inr ((transGen_iff_reachesFrom indexed).mpr hx))⟩
    · exact ⟨x, hreach, .inr (.inr hc)⟩
  | behind off indexed inside _ ih =>
    obtain ⟨x, hx, hc⟩ := ih
    exact ⟨x, hx.behind, hc⟩

/-- Nothing stands in the way of collecting the fragments of a definition. -/
structure Sound (index : FragmentIndex) (definition : Executable) : Prop where
  indexed : ∀ name, Reaches index.find? definition name →
    ∃ fragment, index.find? name = some fragment
  acyclic : ∀ name, Reaches index.find? definition name →
    ¬ Relation.TransGen (Leads index.find?) name name
  apart : ∀ name, definition.fragmentName? = some name → ¬ Reaches index.find? definition name

theorem Sound.exists_used {definition : Executable} (h : Sound index definition) :
    ∃ used, index.used definition = .ok used := by
  rcases emits_or_faults index definition.startPath definition.spreads with
    ⟨emitted, he⟩ | ⟨error, hf⟩
  · exact exists_used_of_emits he
  · obtain ⟨x, hx, hc⟩ := hf.exists_culprit
    rcases hc with hc | hc | hc
    · obtain ⟨fragment, hs⟩ := h.indexed x hx
      rw [hc] at hs
      simp at hs
    · exact absurd hx (h.apart x (by simpa [Executable.startPath] using hc))
    · exact absurd hc (h.acyclic x hx)

theorem sound_of_used {definition : Executable} {used : FragmentTable}
    (h : index.used definition = .ok used) : Sound index definition := by
  obtain ⟨emitted, he, _, _⟩ := emits_of_used h
  refine ⟨fun name hn => ?_, fun name hn => he.acyclic (he.mem_iff.mpr hn), fun name hn hr => ?_⟩
  · obtain ⟨fragment, _, hf, _⟩ := he.inside_of_mem (he.mem_iff.mpr hn)
    exact ⟨fragment, hf⟩
  · refine he.off_path name (he.mem_iff.mpr hr) ?_
    simp [Executable.startPath, hn]

theorem mem_keys_used {definition : Executable} {used : FragmentTable}
    (h : index.used definition = .ok used) {name : String} :
    name ∈ used.keys ↔ Reaches index.find? definition name := by
  obtain ⟨emitted, he, hk, _⟩ := emits_of_used h
  rw [hk, List.mem_eraseDups, he.mem_iff]

theorem find?_used {definition : Executable} {used : FragmentTable}
    (h : index.used definition = .ok used) {name : String} {fragment : Fragment}
    (hf : used.find? name = some fragment) : index.find? name = some fragment := by
  obtain ⟨emitted, _, hk, he⟩ := emits_of_used h
  have hn : name ∈ emitted := List.mem_eraseDups.mp (hk ▸ Table.mem_keys_of_find? hf)
  rw [← he name hn, hf]

theorem find?_eq_of_mem_used {definition : Executable} {used : FragmentTable}
    (h : index.used definition = .ok used) {name : String} (hn : name ∈ used.keys) :
    used.find? name = index.find? name := by
  obtain ⟨fragment, hf⟩ := Table.mem_keys_iff.mp hn
  rw [hf, find?_used h hf]

/-- The fragments of a definition can be collected just if each name that can be reached from it is
indexed and lies on no cycle, and the name of the definition cannot be reached. What is collected then
are the names that can be reached, each once and with its entry in the index. -/
theorem used_iff_reaches (index : FragmentIndex) (definition : Executable) :
    ((∃ used, index.used definition = .ok used) ↔
      (∀ name, Reaches index.find? definition name →
        ∃ fragment, index.find? name = some fragment) ∧
      (∀ name, Reaches index.find? definition name →
        ¬ Relation.TransGen (Leads index.find?) name name) ∧
      ∀ name, definition.fragmentName? = some name → ¬ Reaches index.find? definition name) ∧
    ∀ used, index.used definition = .ok used →
      used.keys.Nodup ∧ (∀ name, name ∈ used.keys ↔ Reaches index.find? definition name) ∧
      ∀ name fragment, used.find? name = some fragment → index.find? name = some fragment := by
  refine ⟨⟨?_, ?_⟩, fun used h => ⟨used.nodup_keys, fun name => mem_keys_used h, ?_⟩⟩
  · rintro ⟨used, h⟩
    have hs := sound_of_used h
    exact ⟨hs.indexed, hs.acyclic, hs.apart⟩
  · rintro ⟨hi, ha, hp⟩
    exact Sound.exists_used ⟨hi, ha, hp⟩
  · intro name fragment hf
    exact find?_used h hf

/-- Two fragments that share a third. -/
def sharedIndex : FragmentIndex :=
  .ofFragments [spreadingFragment "A" ["C"], spreadingFragment "B" ["C"], spreadingFragment "C" []]

def sharingQuery : Executable := .operation (spreadingQuery none ["A", "B"])

theorem used_sharingQuery : ∃ used, sharedIndex.used sharingQuery = .ok used ∧
    used.keys = ["A", "C", "B"] ∧ used.keys.Nodup ∧
    ∀ name, name ∈ used.keys ↔ Reaches sharedIndex.find? sharingQuery name := by
  obtain ⟨used, hu⟩ : ∃ used, sharedIndex.used sharingQuery = .ok used := ⟨_, rfl⟩
  have hk : (sharedIndex.used sharingQuery).map Table.keys = .ok ["A", "C", "B"] := rfl
  have hh := (used_iff_reaches sharedIndex sharingQuery).2 used hu
  rw [hu] at hk
  exact ⟨used, hu, Except.ok.inj hk, hh.1, hh.2.1⟩

end FragmentIndex

end QueryRegistry
