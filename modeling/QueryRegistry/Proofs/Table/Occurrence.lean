import Mathlib.Data.List.Induction
import Mathlib.Data.List.Nodup
import QueryRegistry.Table

/-! The order of a table. Its keys stand in the order of their first insertion, each once, and a
table is known by its keys and by what is found under them. -/

namespace QueryRegistry

section FirstOccurrences

variable {α : Type} [BEq α] [LawfulBEq α]

theorem nodup_eraseDups (xs : List α) : xs.eraseDups.Nodup := by
  induction xs using List.reverseRecOn with
  | nil => exact List.nodup_nil
  | append_singleton xs x ih =>
    rw [List.eraseDups_append]
    by_cases hx : x ∈ xs
    · have hr : [x].removeAll xs = [] := by simp [List.removeAll, hx]
      rwa [hr, List.eraseDups_nil, List.append_nil]
    · have hr : [x].removeAll xs = [x] := by simp [List.removeAll, hx]
      rw [hr]
      refine List.nodup_append.mpr ⟨ih, List.nodup_singleton x, fun a ha b hb => ?_⟩
      rw [List.mem_singleton.mp (List.mem_eraseDups.mp hb)]
      exact fun e => hx (e ▸ List.mem_eraseDups.mp ha)

theorem eraseDups_of_nodup {xs : List α} (h : xs.Nodup) : xs.eraseDups = xs := by
  induction xs with
  | nil => rfl
  | cons x xs ih =>
    have hn := List.nodup_cons.mp h
    have hf : xs.filter (fun y => !y == x) = xs := by
      refine List.filter_eq_self.mpr fun y hy => ?_
      have hne : y ≠ x := fun e => hn.1 (e ▸ hy)
      simpa using hne
    rw [List.eraseDups_cons, hf, ih hn.2]

theorem removeAll_congr {xs ys zs : List α} (h : ∀ x ∈ xs, x ∈ ys ↔ x ∈ zs) :
    xs.removeAll ys = xs.removeAll zs := by
  refine List.filter_congr fun x hx => ?_
  simp only [List.elem_eq_contains]
  congr 1
  rw [Bool.eq_iff_iff, List.contains_iff_mem, List.contains_iff_mem]
  exact h x hx

/-- What has already occurred once is enough to tell what occurs for the first time. -/
theorem eraseDups_eraseDups_append (xs ys : List α) :
    (xs.eraseDups ++ ys).eraseDups = (xs ++ ys).eraseDups := by
  rw [List.eraseDups_append, List.eraseDups_append, eraseDups_of_nodup (nodup_eraseDups xs),
    removeAll_congr fun x _ => List.mem_eraseDups]

theorem eraseDups_append_of_subset {xs ys : List α} (h : ∀ y ∈ ys, y ∈ xs) :
    (xs ++ ys).eraseDups = xs.eraseDups := by
  have hr : ys.removeAll xs = [] := by
    refine List.filter_eq_nil_iff.mpr fun y hy => ?_
    simpa using h y hy
  rw [List.eraseDups_append, hr, List.eraseDups_nil, List.append_nil]

end FirstOccurrences

namespace Table

variable {κ α : Type}

theorem nodup_keys (table : Table κ α) : table.keys.Nodup := table.nodup

theorem eq_of_entries {s t : Table κ α} (h : s.entries = t.entries) : s = t := by
  obtain ⟨entries, hs⟩ := s
  obtain ⟨entries', ht⟩ := t
  obtain rfl : entries = entries' := h
  rfl

theorem mem_keys_of_prefix {s t : Table κ α} {key : κ} (h : s.entries <+: t.entries)
    (hk : key ∈ s.keys) : key ∈ t.keys :=
  (h.map Prod.fst).subset hk

variable [DecidableEq κ]

theorem put_of_not_mem {key : κ} {value : α} {entries : List (κ × α)}
    (h : key ∉ entries.map Prod.fst) : put key value entries = entries ++ [(key, value)] := by
  induction entries with
  | nil => rfl
  | cons entry rest ih =>
    rw [List.map_cons, List.mem_cons, not_or] at h
    rw [put, if_neg (Ne.symm h.1), ih h.2, List.cons_append]

/-- A new key goes to the end and leaves the entries before it as they are. -/
theorem entries_prefix_insert {table : Table κ α} {key : κ} (value : α) (h : key ∉ table.keys) :
    table.entries <+: (table.insert key value).entries :=
  ⟨[(key, value)], (put_of_not_mem h).symm⟩

theorem eraseDups_keys (table : Table κ α) : table.keys.eraseDups = table.keys :=
  eraseDups_of_nodup table.nodup_keys

theorem keys_insert_eq_eraseDups (table : Table κ α) (key : κ) (value : α) :
    (table.insert key value).keys = (table.keys ++ [key]).eraseDups := by
  rw [keys_insert]
  split
  next h =>
    rw [eraseDups_append_of_subset (by simpa using h), table.eraseDups_keys]
  next h =>
    rw [eraseDups_of_nodup]
    refine List.nodup_append.mpr ⟨table.nodup_keys, by simp, ?_⟩
    intro a ha b hb
    rw [List.mem_singleton.mp hb]
    exact fun e => h (e ▸ ha)

theorem mem_keys_iff {table : Table κ α} {key : κ} :
    key ∈ table.keys ↔ ∃ value, table.find? key = some value := by
  rw [← not_iff_not, ← find?_eq_none_iff]
  cases table.find? key <;> simp

theorem map_entries_eq (table : Table κ α) :
    table.entries.map (fun entry => (entry.1, some entry.2)) =
      table.keys.map fun key => (key, table.find? key) := by
  obtain ⟨entries, hn⟩ := table
  simp only [keys, find?, List.map_map]
  induction entries with
  | nil => rfl
  | cons entry rest ih =>
    obtain ⟨name, held⟩ := entry
    rw [List.map_cons, List.nodup_cons] at hn
    have hrest : rest.map ((fun key => (key, ((name, held) :: rest).lookup key)) ∘ Prod.fst) =
        rest.map ((fun key => (key, rest.lookup key)) ∘ Prod.fst) := by
      refine List.map_congr_left fun other ho => ?_
      have hne : other.1 ≠ name := fun e => hn.1 (List.mem_map.mpr ⟨other, ho, e⟩)
      simp [List.lookup_cons, beq_eq_false_iff_ne.mpr hne]
    simp [hrest, ih hn.2]

theorem eq_of_keys_of_find? {s t : Table κ α} (hk : s.keys = t.keys)
    (hf : ∀ key ∈ s.keys, s.find? key = t.find? key) : s = t := by
  refine eq_of_entries ?_
  have h : s.entries.map (fun entry => (entry.1, some entry.2)) =
      t.entries.map (fun entry => (entry.1, some entry.2)) := by
    rw [map_entries_eq, map_entries_eq, ← hk]
    exact List.map_congr_left fun key hkey => congrArg (key, ·) (hf key hkey)
  have hinj : Function.Injective fun entry : κ × α => (entry.1, some entry.2) := by
    rintro ⟨_, _⟩ ⟨_, _⟩ hab
    simpa using hab
  exact hinj.list_map h

theorem mem_entries_iff {table : Table κ α} {key : κ} {value : α} :
    (key, value) ∈ table.entries ↔ table.find? key = some value := by
  constructor
  · intro h
    have hm : (key, some value) ∈ table.entries.map fun entry => (entry.1, some entry.2) :=
      List.mem_map.mpr ⟨_, h, rfl⟩
    rw [map_entries_eq] at hm
    obtain ⟨other, _, ho⟩ := List.mem_map.mp hm
    obtain ⟨rfl, hf⟩ := Prod.mk.inj ho
    exact hf
  · intro h
    obtain ⟨before, behind, he, _⟩ := List.lookup_eq_some_iff.mp h
    rw [he]
    exact List.mem_append_right _ List.mem_cons_self

theorem mem_values_iff {table : Table κ α} {value : α} :
    value ∈ table.values ↔ ∃ key, table.find? key = some value := by
  simp only [values, List.mem_map, Prod.exists, exists_eq_right, mem_entries_iff]

theorem ofList_concat (entries : List (κ × α)) (entry : κ × α) :
    ofList (entries ++ [entry]) = (ofList entries).insert entry.1 entry.2 := by
  simp [ofList]

theorem keys_ofList (entries : List (κ × α)) :
    (ofList entries).keys = (entries.map Prod.fst).eraseDups := by
  induction entries using List.reverseRecOn with
  | nil => rfl
  | append_singleton entries entry ih =>
    rw [ofList_concat, keys_insert_eq_eraseDups, ih, eraseDups_eraseDups_append, List.map_append,
      List.map_singleton]

theorem find?_ofList (entries : List (κ × α)) (key : κ) :
    (ofList entries).find? key = entries.reverse.lookup key := by
  induction entries using List.reverseRecOn with
  | nil => rfl
  | append_singleton entries entry ih =>
    rw [ofList_concat, find?_insert, ih, List.reverse_append, List.reverse_singleton,
      List.singleton_append, List.lookup_cons]
    by_cases h : key = entry.1
    · simp [h]
    · simp [h, beq_eq_false_iff_ne.mpr h]

theorem mem_of_find?_ofList {entries : List (κ × α)} {key : κ} {value : α}
    (h : (ofList entries).find? key = some value) : (key, value) ∈ entries := by
  rw [find?_ofList] at h
  obtain ⟨before, behind, he, _⟩ := List.lookup_eq_some_iff.mp h
  rw [← List.mem_reverse, he]
  exact List.mem_append_right _ List.mem_cons_self

/-- Inserted one after the other, the entries of a table make the table again. -/
theorem ofList_entries (table : Table κ α) : ofList table.entries = table := by
  have hk : (ofList table.entries).keys = table.keys := by
    rw [keys_ofList]
    exact table.eraseDups_keys
  refine eq_of_keys_of_find? hk fun key hkey => ?_
  obtain ⟨value, hf⟩ := mem_keys_iff.mp hkey
  rw [hf, mem_entries_iff.mp (mem_of_find?_ofList hf)]

theorem mem_keys_ofList {entries : List (κ × α)} {key : κ} :
    key ∈ (ofList entries).keys ↔ ∃ value, (key, value) ∈ entries := by
  simp [keys_ofList]

end Table

end QueryRegistry
