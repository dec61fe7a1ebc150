import QueryRegistry.Fragment.Spreads

/-! The places at which a selection set spreads a name. A place is the number of a selection in its
set and, inside a field or an inline fragment, the place in the set of that selection behind it. The
spreads of a set are the names at all such places, in the order of the places. -/

namespace QueryRegistry

/-- A set spreads a name at a place. -/
inductive SpreadAt : List Selection → List Nat → String → Prop
  | here {rest : List Selection} {name : String} {directives : List Directive} :
      SpreadAt (.spread name directives :: rest) [0] name
  | field {label : Option String} {field name : String} {arguments : Arguments}
      {directives : List Directive} {inner rest : List Selection} {place : List Nat}
      (inside : SpreadAt inner place name) :
      SpreadAt (.field label field arguments directives (some inner) :: rest) (0 :: place) name
  | inline {condition : Option String} {directives : List Directive}
      {inner rest : List Selection} {place : List Nat} {name : String}
      (inside : SpreadAt inner place name) :
      SpreadAt (.inline condition directives (some inner) :: rest) (0 :: place) name
  | behind {selection : Selection} {rest : List Selection} {number : Nat} {place : List Nat}
      {name : String} (later : SpreadAt rest (number :: place) name) :
      SpreadAt (selection :: rest) ((number + 1) :: place) name

namespace Selection

mutual

def spreadPlaces : Selection → List (List Nat × String)
  | .field _ _ _ _ selections => spreadPlacesOfSet selections
  | .spread name _ => [([], name)]
  | .inline _ _ selections => spreadPlacesOfSet selections

def spreadPlacesOfSet : Option (List Selection) → List (List Nat × String)
  | none => []
  | some selections => spreadPlacesOfList 0 selections

/-- The first of the selections has the given number in its set. -/
def spreadPlacesOfList : Nat → List Selection → List (List Nat × String)
  | _, [] => []
  | number, selection :: rest =>
    (spreadPlaces selection).map (fun (place, name) => (number :: place, name)) ++
      spreadPlacesOfList (number + 1) rest

end

mutual

theorem map_spreadPlaces : ∀ s : Selection, (spreadPlaces s).map Prod.snd = s.spreads
  | .field _ _ _ _ selections => map_spreadPlacesOfSet selections
  | .spread _ _ => rfl
  | .inline _ _ selections => map_spreadPlacesOfSet selections

theorem map_spreadPlacesOfSet : ∀ set : Option (List Selection),
    (spreadPlacesOfSet set).map Prod.snd = spreadsOfSet set
  | none => rfl
  | some selections => map_spreadPlacesOfList 0 selections

theorem map_spreadPlacesOfList : ∀ (number : Nat) (selections : List Selection),
    (spreadPlacesOfList number selections).map Prod.snd = spreadsOfList selections
  | _, [] => rfl
  | number, selection :: rest => by
    rw [spreadPlacesOfList, List.map_append, List.map_map, spreadsOfList,
      ← map_spreadPlaces selection, ← map_spreadPlacesOfList (number + 1) rest]
    rfl

end

section Places

variable {rest : List Selection} {place : List Nat} {name : String}

theorem spreadAt_field_iff {label : Option String} {field : String} {arguments : Arguments}
    {directives : List Directive} {set : Option (List Selection)} :
    SpreadAt (.field label field arguments directives set :: rest) (0 :: place) name ↔
      ∃ inner, set = some inner ∧ SpreadAt inner place name := by
  constructor
  · rintro (_ | inside)
    exact ⟨_, rfl, inside⟩
  · rintro ⟨inner, rfl, h⟩
    exact .field h

theorem spreadAt_inline_iff {condition : Option String} {directives : List Directive}
    {set : Option (List Selection)} :
    SpreadAt (.inline condition directives set :: rest) (0 :: place) name ↔
      ∃ inner, set = some inner ∧ SpreadAt inner place name := by
  constructor
  · rintro (_ | _ | inside)
    exact ⟨_, rfl, inside⟩
  · rintro ⟨inner, rfl, h⟩
    exact .inline h

theorem spreadAt_spread_iff {other : String} {directives : List Directive} :
    SpreadAt (.spread other directives :: rest) (0 :: place) name ↔ place = [] ∧ name = other := by
  constructor
  · rintro ⟨⟩
    exact ⟨rfl, rfl⟩
  · rintro ⟨rfl, rfl⟩
    exact .here

theorem spreadAt_succ_iff {selection : Selection} {number : Nat} :
    SpreadAt (selection :: rest) ((number + 1) :: place) name ↔
      SpreadAt rest (number :: place) name :=
  ⟨fun h => by cases h with | behind later => exact later, .behind⟩

theorem spreadAt_iff_exists_cons {selections : List Selection} :
    SpreadAt selections place name ↔
      ∃ first behind, place = first :: behind ∧ SpreadAt selections (first :: behind) name := by
  constructor
  · intro h
    cases place with
    | nil => cases h
    | cons first behind => exact ⟨first, behind, rfl, h⟩
  · rintro ⟨first, behind, rfl, h⟩
    exact h

end Places

mutual

theorem mem_spreadPlaces_iff (rest : List Selection) {place : List Nat} {name : String} :
    ∀ s : Selection, (place, name) ∈ spreadPlaces s ↔ SpreadAt (s :: rest) (0 :: place) name
  | .field _ _ _ _ selections => by
    rw [spreadPlaces, mem_spreadPlacesOfSet_iff selections, spreadAt_field_iff]
  | .spread other directives => by
    rw [spreadPlaces, List.mem_singleton, Prod.mk.injEq, spreadAt_spread_iff]
  | .inline _ _ selections => by
    rw [spreadPlaces, mem_spreadPlacesOfSet_iff selections, spreadAt_inline_iff]

theorem mem_spreadPlacesOfSet_iff {place : List Nat} {name : String} :
    ∀ set : Option (List Selection), (place, name) ∈ spreadPlacesOfSet set ↔
      ∃ selections, set = some selections ∧ SpreadAt selections place name
  | none => by simp [spreadPlacesOfSet]
  | some selections => by
    rw [spreadPlacesOfSet, mem_spreadPlacesOfList_iff 0 selections]
    simp only [Nat.zero_add, Option.some.injEq, exists_eq_left', ← spreadAt_iff_exists_cons]

theorem mem_spreadPlacesOfList_iff {place : List Nat} {name : String} :
    ∀ (number : Nat) (selections : List Selection),
      (place, name) ∈ spreadPlacesOfList number selections ↔
        ∃ first behind, place = (number + first) :: behind ∧
          SpreadAt selections (first :: behind) name
  | number, [] => by
    simp only [spreadPlacesOfList, List.not_mem_nil, false_iff]
    rintro ⟨first, behind, -, h⟩
    cases h
  | number, selection :: rest => by
    rw [spreadPlacesOfList, List.mem_append, mem_spreadPlacesOfList_iff (number + 1) rest]
    constructor
    · rintro (h | ⟨first, behind, rfl, h⟩)
      · obtain ⟨⟨below, _⟩, hb, he⟩ := List.mem_map.mp h
        obtain ⟨rfl, rfl⟩ := Prod.mk.inj he
        exact ⟨0, below, rfl, (mem_spreadPlaces_iff rest selection).mp hb⟩
      · exact ⟨first + 1, behind, by rw [Nat.add_right_comm, Nat.add_assoc], .behind h⟩
    · rintro ⟨first, behind, rfl, h⟩
      cases first with
      | zero =>
        exact .inl (List.mem_map.mpr ⟨(behind, name), (mem_spreadPlaces_iff rest selection).mpr h, rfl⟩)
      | succ first =>
        exact .inr ⟨first, behind, by rw [Nat.add_right_comm, Nat.add_assoc],
          spreadAt_succ_iff.mp h⟩

end

mutual

theorem pairwise_spreadPlaces : ∀ s : Selection,
    (spreadPlaces s).Pairwise fun a b => a.1 < b.1
  | .field _ _ _ _ selections => pairwise_spreadPlacesOfSet selections
  | .spread _ _ => List.pairwise_singleton _ _
  | .inline _ _ selections => pairwise_spreadPlacesOfSet selections

theorem pairwise_spreadPlacesOfSet : ∀ set : Option (List Selection),
    (spreadPlacesOfSet set).Pairwise fun a b => a.1 < b.1
  | none => .nil
  | some selections => pairwise_spreadPlacesOfList 0 selections

theorem pairwise_spreadPlacesOfList : ∀ (number : Nat) (selections : List Selection),
    (spreadPlacesOfList number selections).Pairwise fun a b => a.1 < b.1
  | _, [] => .nil
  | number, selection :: rest => by
    rw [spreadPlacesOfList, List.pairwise_append, List.pairwise_map]
    refine ⟨(pairwise_spreadPlaces selection).imp fun h => List.cons_lt_cons_iff.mpr (.inr ⟨rfl, h⟩),
      pairwise_spreadPlacesOfList (number + 1) rest, fun a ha b hb => ?_⟩
    obtain ⟨⟨below, name⟩, -, rfl⟩ := List.mem_map.mp ha
    obtain ⟨first, behind, he, -⟩ := (mem_spreadPlacesOfList_iff (number + 1) rest).mp hb
    rw [he]
    exact List.cons_lt_cons_iff.mpr (.inl (by omega))

end

/-- The spreads of a set are the names at the places where it spreads one, in the order of the
places: of two selections in one set the earlier comes first, with all that is inside it. -/
theorem spreadsOfList_eq (selections : List Selection) :
    ∃ places : List (List Nat × String), (places.Pairwise fun a b => a.1 < b.1) ∧
      (∀ place name, (place, name) ∈ places ↔ SpreadAt selections place name) ∧
      spreadsOfList selections = places.map Prod.snd := by
  refine ⟨spreadPlacesOfList 0 selections, pairwise_spreadPlacesOfList 0 selections,
    fun place name => ?_, (map_spreadPlacesOfList 0 selections).symm⟩
  rw [mem_spreadPlacesOfList_iff, spreadAt_iff_exists_cons]
  simp only [Nat.zero_add]

end Selection

namespace Executable

def SpreadsAt (definition : Executable) (place : List Nat) (name : String) : Prop :=
  ∃ selections, definition.selections = some selections ∧ SpreadAt selections place name

theorem spreads_eq (definition : Executable) :
    ∃ places : List (List Nat × String), (places.Pairwise fun a b => a.1 < b.1) ∧
      (∀ place name, (place, name) ∈ places ↔ definition.SpreadsAt place name) ∧
      definition.spreads = places.map Prod.snd := by
  unfold SpreadsAt spreads
  cases definition.selections with
  | none => exact ⟨[], .nil, by simp, rfl⟩
  | some selections =>
    obtain ⟨places, hp, hmem, heq⟩ := Selection.spreadsOfList_eq selections
    exact ⟨places, hp, by simpa using hmem, heq⟩

theorem mem_spreads_iff {definition : Executable} {name : String} :
    name ∈ definition.spreads ↔ ∃ place, definition.SpreadsAt place name := by
  obtain ⟨places, -, hmem, heq⟩ := definition.spreads_eq
  rw [heq, List.mem_map]
  constructor
  · rintro ⟨⟨place, _⟩, h, rfl⟩
    exact ⟨place, (hmem _ _).mp h⟩
  · rintro ⟨place, h⟩
    exact ⟨_, (hmem _ _).mpr h, rfl⟩

end Executable

section Nesting

/-- A set that spreads the names in turn. Each stands in a field, and that of the next name stands in an
inline fragment behind it. -/
def spreadingSet : List String → List Selection
  | [] => [.field none "id" [] [] none]
  | name :: rest =>
    [.field none "node" [] [] (some [.spread name []]),
      .inline (some "T") [] (some (spreadingSet rest))]

def spreadingFragment (name : String) (names : List String) : Fragment :=
  { name, condition := "T", selections := some (spreadingSet names) }

def spreadingQuery (name : Option String) (names : List String) : Operation :=
  { name, selections := some (spreadingSet names) }

end Nesting

end QueryRegistry
