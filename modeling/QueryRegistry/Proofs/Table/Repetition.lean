import QueryRegistry.Proofs.Table.Occurrence

/-! Lists in which keys come again. A table that is made of such a list keeps each key at the place
where it came first, with the value that came last, and is shorter than the list by as many members as
have a key that came before. -/

namespace QueryRegistry

variable {α β κ : Type} [DecidableEq κ]

/-- The members of a list, each with whether its key has come before. -/
def markRepeats (key : α → κ) (xs : List α) : List (α × Bool) :=
  xs.mapIdx fun place x => (x, decide (key x ∈ (xs.take place).map key))

theorem markRepeats_concat (key : α → κ) (xs : List α) (x : α) :
    markRepeats key (xs ++ [x]) =
      markRepeats key xs ++ [(x, decide (key x ∈ xs.map key))] := by
  rw [markRepeats, List.mapIdx_concat, List.take_left]
  congr 1
  refine List.mapIdx_eq_mapIdx_iff.mpr fun place hp => ?_
  rw [List.take_append_of_le_length (Nat.le_of_lt hp)]

theorem countP_markRepeats (key : α → κ) (xs : List α) :
    (markRepeats key xs).countP Prod.snd + (xs.map key).eraseDups.length = xs.length := by
  induction xs using List.reverseRecOn with
  | nil => rfl
  | append_singleton xs x ih =>
    rw [markRepeats_concat, List.countP_append, List.map_append, List.map_singleton,
      List.length_append, List.length_singleton, ← ih]
    by_cases hx : key x ∈ xs.map key
    · rw [eraseDups_append_of_subset (by simpa using hx)]
      simp only [hx, decide_true, List.countP_singleton, if_true]
      omega
    · have hr : [key x].removeAll (xs.map key) = [key x] := by simpa [List.removeAll] using hx
      rw [List.eraseDups_append, hr, eraseDups_of_nodup (List.nodup_singleton _)]
      simp only [hx, decide_false, List.countP_singleton, List.length_append,
        List.length_singleton, Bool.false_eq_true, if_false]
      omega

namespace Table

/-- What a table holds when the members of a list are put into it one after the other, each under its
key. -/
structure Collects (table : Table κ β) (key : α → κ) (value : α → β) (xs : List α) : Prop where
  /-- Each key stands once, where it came first. -/
  order : table.keys = (xs.map key).eraseDups
  /-- Under each key stands what came last. -/
  last : ∀ before x behind, xs = before ++ x :: behind → (∀ y ∈ behind, key y ≠ key x) →
    table.find? (key x) = some (value x)

theorem collects_ofList (key : α → κ) (value : α → β) (xs : List α) :
    (ofList (xs.map fun x => (key x, value x))).Collects key value xs where
  order := by
    rw [keys_ofList, List.map_map]
    rfl
  last := by
    rintro before x behind rfl hlast
    have hbehind : (behind.map fun y => (key y, value y)).reverse.lookup (key x) = none := by
      refine List.lookup_eq_none_iff.mpr fun entry he => ?_
      obtain ⟨y, hy, rfl⟩ := List.mem_map.mp (List.mem_reverse.mp he)
      simpa using (hlast y hy).symm
    rw [find?_ofList, List.map_append, List.map_cons, List.reverse_append, List.reverse_cons,
      List.lookup_append, List.lookup_append, hbehind]
    simp

theorem Collects.size_eq {table : Table κ β} {key : α → κ} {value : α → β} {xs : List α}
    (h : table.Collects key value xs) : table.size = (xs.map key).eraseDups.length := by
  rw [← length_keys, h.order]

end Table

end QueryRegistry
