/-! Tables from keys to values that remember in which order their keys came. A key that is inserted
again keeps its place and takes the new value; a new key goes to the end. -/

namespace QueryRegistry

structure Table (κ α : Type) where
  entries : List (κ × α)
  nodup : (entries.map Prod.fst).Nodup
  deriving DecidableEq, Repr

namespace Table

variable {κ α : Type}

def empty : Table κ α := ⟨[], List.nodup_nil⟩

instance : Inhabited (Table κ α) := ⟨empty⟩

def keys (table : Table κ α) : List κ := table.entries.map Prod.fst

def values (table : Table κ α) : List α := table.entries.map Prod.snd

def size (table : Table κ α) : Nat := table.entries.length

@[simp]
theorem keys_empty : (empty : Table κ α).keys = [] := rfl

theorem length_keys (table : Table κ α) : table.keys.length = table.size := by
  simp [keys, size]

variable [DecidableEq κ]

def find? (table : Table κ α) (key : κ) : Option α := table.entries.lookup key

def contains (table : Table κ α) (key : κ) : Bool := table.keys.contains key

/-- Gives the key its value in place, or at the end if it is new. -/
def put (key : κ) (value : α) : List (κ × α) → List (κ × α)
  | [] => [(key, value)]
  | entry :: rest => if entry.1 = key then (key, value) :: rest else entry :: put key value rest

theorem keys_put (key : κ) (value : α) (entries : List (κ × α)) :
    (put key value entries).map Prod.fst =
      if key ∈ entries.map Prod.fst then entries.map Prod.fst
      else entries.map Prod.fst ++ [key] := by
  induction entries with
  | nil => simp [put]
  | cons entry rest ih =>
    by_cases h : entry.1 = key
    · simp [put, h]
    · have h' : ¬ key = entry.1 := fun e => h e.symm
      simp only [put, h, if_false, List.map_cons, ih, List.mem_cons, h', false_or]
      split <;> simp

theorem lookup_put (key other : κ) (value : α) (entries : List (κ × α)) :
    (put key value entries).lookup other =
      if other = key then some value else entries.lookup other := by
  induction entries with
  | nil =>
    by_cases h : other = key
    · simp [put, h]
    · simp [put, h, List.lookup_cons, beq_eq_false_iff_ne.mpr h]
  | cons entry rest ih =>
    obtain ⟨name, held⟩ := entry
    by_cases h : name = key
    · subst h
      by_cases ho : other = name
      · simp [put, ho]
      · simp [put, ho, List.lookup_cons, beq_eq_false_iff_ne.mpr ho]
    · by_cases ho : other = name
      · subst ho
        simp [put, h]
      · simp [put, h, List.lookup_cons, beq_eq_false_iff_ne.mpr ho, ih]

def insert (table : Table κ α) (key : κ) (value : α) : Table κ α where
  entries := put key value table.entries
  nodup := by
    rw [keys_put]
    split
    · exact table.nodup
    next h =>
      refine List.nodup_append.mpr ⟨table.nodup, by simp, ?_⟩
      intro a ha b hb
      rw [List.mem_singleton.mp hb]
      rintro rfl
      exact h ha

/-- The table that the entries make when they are inserted one after the other. -/
def ofList (entries : List (κ × α)) : Table κ α :=
  entries.foldl (fun table entry => table.insert entry.1 entry.2) empty

@[simp]
theorem find?_empty (key : κ) : (empty : Table κ α).find? key = none := rfl

theorem keys_insert (table : Table κ α) (key : κ) (value : α) :
    (table.insert key value).keys =
      if key ∈ table.keys then table.keys else table.keys ++ [key] :=
  keys_put key value table.entries

theorem find?_insert (table : Table κ α) (key other : κ) (value : α) :
    (table.insert key value).find? other = if other = key then some value else table.find? other :=
  lookup_put key other value table.entries

theorem contains_iff {table : Table κ α} {key : κ} :
    table.contains key = true ↔ key ∈ table.keys := by
  simp [contains]

theorem contains_insert (table : Table κ α) (key other : κ) (value : α) :
    (table.insert key value).contains other = (other == key || table.contains other) := by
  rw [Bool.eq_iff_iff, contains_iff, keys_insert, Bool.or_eq_true, contains_iff, beq_iff_eq]
  split
  next h =>
    constructor
    · exact Or.inr
    · rintro (rfl | ho)
      · exact h
      · exact ho
  · simp [or_comm]

theorem find?_eq_none_iff {table : Table κ α} {key : κ} :
    table.find? key = none ↔ key ∉ table.keys := by
  simp only [find?, keys]
  induction table.entries with
  | nil => simp
  | cons entry rest ih =>
    obtain ⟨name, held⟩ := entry
    by_cases h : key = name
    · subst h
      simp
    · simp [List.lookup_cons, beq_eq_false_iff_ne.mpr h, h, ih]

theorem mem_keys_of_find? {table : Table κ α} {key : κ} {value : α}
    (h : table.find? key = some value) : key ∈ table.keys := by
  refine Classical.byContradiction fun hk => ?_
  rw [find?_eq_none_iff.mpr hk] at h
  exact absurd h (by simp)

end Table

end QueryRegistry
