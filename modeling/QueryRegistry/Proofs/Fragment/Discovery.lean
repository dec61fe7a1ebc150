import Mathlib.Data.Set.Card
import QueryRegistry.Proofs.Fragment.Reachability

/-! The order in which fragments are met. A fragment is followed at once by all those to which it leads
and which have not been met before it, and only then by others. The plain walk shows it: behind each
name it emits at once all to which the name leads, and dropping what has occurred before keeps the rest
together. -/

namespace QueryRegistry

namespace FragmentIndex

variable {index : FragmentIndex} {path names emitted : List String} {name : String}

/-- Behind the first place of a name stands all that the run emitted inside its fragment. -/
theorem Emits.exists_split (h : Emits index path names emitted) (hn : name ∈ emitted) :
    ∃ before inner behind, emitted = before ++ name :: (inner ++ behind) ∧ name ∉ before ∧
      name ∉ inner ∧ ∀ x, x ∈ inner ↔ Relation.TransGen (Leads index.find?) name x := by
  induction h with
  | nil path => simp at hn
  | @step path rest inner later first fragment off indexed inside behind ihi ihl =>
    by_cases he : name = first
    · subst he
      refine ⟨[], inner, later, rfl, List.not_mem_nil, fun hi => ?_, fun x => ?_⟩
      · exact inside.off_path name hi (List.mem_append_right _ List.mem_cons_self)
      · rw [inside.mem_iff, transGen_iff_reachesFrom indexed]
    · by_cases hi : name ∈ inner
      · obtain ⟨pre, own, post, rfl, hpre, hown, hiff⟩ := ihi hi
        refine ⟨first :: pre, own, post ++ later, by simp, ?_, hown, hiff⟩
        simp [he, hpre]
      · have hl : name ∈ later := by simpa [he, hi] using hn
        obtain ⟨pre, own, post, rfl, hpre, hown, hiff⟩ := ihl hl
        refine ⟨first :: (inner ++ pre), own, post, by simp, ?_, hown, hiff⟩
        simp [he, hi, hpre]

/-- The names to which a name leads and that are not in the list. -/
def newlyLed (index : FragmentIndex) (name : String) (listed : List String) : Set String :=
  {x | Relation.TransGen (Leads index.find?) name x ∧ x ∉ listed}

theorem mem_newlyLed {listed : List String} {x : String} : x ∈ newlyLed index name listed ↔
    Relation.TransGen (Leads index.find?) name x ∧ x ∉ listed := Iff.rfl

/-- With first occurrences alone, what the name newly leads to still stands right behind it. -/
theorem exists_newlyLed_split {definition : Executable} {used : FragmentTable}
    (h : index.used definition = .ok used) (hn : name ∈ used.keys) :
    ∃ before pulled behind, used.keys = before ++ name :: (pulled ++ behind) ∧
      ∀ x, x ∈ newlyLed index name before ↔ x ∈ pulled := by
  obtain ⟨emitted, he, hk, _⟩ := emits_of_used h
  rw [hk, List.mem_eraseDups] at hn
  obtain ⟨before, inner, behind, rfl, hbefore, hinner, hiff⟩ := he.exists_split hn
  refine ⟨before.eraseDups, (inner.removeAll (before ++ [name])).eraseDups,
    (behind.removeAll (before ++ [name] ++ inner)).eraseDups, ?_, fun x => ?_⟩
  · have hname : [name].removeAll before = [name] := by simp [List.removeAll, hbefore]
    have hsplit : before ++ name :: (inner ++ behind) = before ++ [name] ++ inner ++ behind := by
      simp
    rw [hk, hsplit, List.eraseDups_append, List.eraseDups_append, List.eraseDups_append, hname,
      eraseDups_of_nodup (List.nodup_singleton name)]
    simp only [List.append_assoc, List.cons_append, List.nil_append]
  · have hne : x ∈ inner → x ≠ name := fun hx e => hinner (e ▸ hx)
    rw [mem_newlyLed, ← hiff, List.mem_eraseDups, List.mem_eraseDups]
    simp only [List.removeAll, List.mem_filter, List.elem_eq_contains, Bool.not_eq_true',
      List.contains_eq_mem, List.mem_append, List.mem_singleton, decide_eq_false_iff_not, not_or]
    exact ⟨fun hx => ⟨hx.1, hx.2, hne hx.1⟩, fun hx => ⟨hx.1, hx.2.1⟩⟩

theorem mem_iff_exists_between (before middle behind : List String) {x : String} :
    x ∈ middle ↔ ∃ i, before.length ≤ i ∧ i < before.length + middle.length ∧
      (before ++ middle ++ behind)[i]? = some x := by
  rw [List.mem_iff_getElem?]
  constructor
  · rintro ⟨i, hi⟩
    have hlt := (List.getElem?_eq_some_iff.mp hi).1
    refine ⟨before.length + i, by omega, by omega, ?_⟩
    rw [List.append_assoc, List.getElem?_append_right (by omega), Nat.add_sub_cancel_left,
      List.getElem?_append_left hlt, hi]
  · rintro ⟨i, hle, hlt, hi⟩
    refine ⟨i - before.length, ?_⟩
    rwa [List.append_assoc, List.getElem?_append_right hle,
      List.getElem?_append_left (by omega)] at hi

/-- The list goes on behind the name with as many names as are newly led to, and they are these. -/
theorem keys_used_eq_newlyLed {definition : Executable} {used : FragmentTable}
    (h : index.used definition = .ok used) {place : Nat} (hp : used.keys[place]? = some name) :
    place + (newlyLed index name (used.keys.take place)).ncard < used.keys.length ∧
    ∀ x, x ∈ newlyLed index name (used.keys.take place) ↔
      ∃ i, place < i ∧ i ≤ place + (newlyLed index name (used.keys.take place)).ncard ∧
        used.keys[i]? = some x := by
  obtain ⟨before, pulled, behind, hkeys, hiff⟩ := exists_newlyLed_split h (List.mem_of_getElem? hp)
  have hnodup := used.nodup_keys
  rw [hkeys] at hnodup hp ⊢
  have hplace : before.length = place := by
    have hb : (before ++ name :: (pulled ++ behind))[before.length]? = some name := by simp
    exact (List.getElem?_inj (by simp) hnodup).mp (hb.trans hp.symm)
  subst hplace
  rw [List.take_left]
  have hset : newlyLed index name before = ↑pulled.toFinset := by
    ext x
    rw [hiff x, Finset.mem_coe, List.mem_toFinset]
  have hpulled : pulled.Nodup := hnodup.sublist <|
    (List.sublist_append_left pulled behind).trans <|
      (List.sublist_cons_self name _).trans (List.sublist_append_right before _)
  have hcard : (newlyLed index name before).ncard = pulled.length := by
    rw [hset, Set.ncard_coe_finset, List.toFinset_card_of_nodup hpulled]
  rw [hcard]
  have hparts : before ++ name :: (pulled ++ behind) = before ++ [name] ++ pulled ++ behind := by simp
  rw [hparts]
  refine ⟨by simp only [List.length_append, List.length_singleton]; omega, fun x => ?_⟩
  rw [hiff x, mem_iff_exists_between (before ++ [name]) pulled behind, List.length_append,
    List.length_singleton]
  refine exists_congr fun i => ?_
  rw [Nat.succ_le_iff, ← and_assoc, ← and_assoc, Nat.add_right_comm, Nat.lt_succ_iff]

section Layers

def layeredIndex : FragmentIndex :=
  .ofFragments [spreadingFragment "A" ["C"], spreadingFragment "B" ["D", "E"],
    spreadingFragment "C" ["D"], spreadingFragment "D" [], spreadingFragment "E" []]

def layeredQuery : Executable := .operation (spreadingQuery none ["A", "B"])

theorem keys_used_layeredQuery : ∃ used, layeredIndex.used layeredQuery = .ok used ∧
    used.keys = ["A", "C", "D", "B", "E"] ∧ used.keys[3]? = some "B" ∧
    ∀ x, x ∈ newlyLed layeredIndex "B" (used.keys.take 3) ↔
      ∃ i, 3 < i ∧ i ≤ 3 + (newlyLed layeredIndex "B" (used.keys.take 3)).ncard ∧
        used.keys[i]? = some x := by
  obtain ⟨used, hu⟩ : ∃ used, layeredIndex.used layeredQuery = .ok used := ⟨_, rfl⟩
  have hk : (layeredIndex.used layeredQuery).map Table.keys = .ok ["A", "C", "D", "B", "E"] := rfl
  rw [hu] at hk
  have hkeys : used.keys = ["A", "C", "D", "B", "E"] := Except.ok.inj hk
  have hplace : used.keys[3]? = some "B" := by rw [hkeys]; rfl
  exact ⟨used, hu, hkeys, hplace, (keys_used_eq_newlyLed hu hplace).2⟩

end Layers

end FragmentIndex

end QueryRegistry
