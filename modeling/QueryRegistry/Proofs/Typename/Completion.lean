import Mathlib.Data.List.Forall2
import QueryRegistry.Proofs.Typename.Addition

/-! What becomes of a document that is asked for its type names, told from the document as it stood
before. Which sets of selections get a field depends on what was selected in them then, not on what
has been put in below; and when the fields that were put in are taken out again, the document is
left. -/

namespace QueryRegistry

namespace Selection

mutual

/-- The second selection is the first when it has been asked for its type names. -/
inductive Asked : Selection → Selection → Prop
  | field {label : Option String} {name : String} {arguments : Arguments}
      {directives : List Directive} {set set' : Option (List Selection)}
      (inside : SetAsked false set set') :
      Asked (.field label name arguments directives set)
        (.field label name arguments directives set')
  | spread (name : String) (directives : List Directive) :
      Asked (.spread name directives) (.spread name directives)
  | inline {condition : Option String} {directives : List Directive}
      {set set' : Option (List Selection)} (inside : SetAsked false set set') :
      Asked (.inline condition directives set) (.inline condition directives set')

/-- The same for a set. What is put in depends on the first of the two alone. -/
inductive SetAsked : Bool → Option (List Selection) → Option (List Selection) → Prop
  | absent (root : Bool) : SetAsked root none none
  | present {root : Bool} {selections asked : List Selection}
      (each : List.Forall₂ Asked selections asked) :
      SetAsked root (some selections) (some (asked ++ addition root selections))

end

def inner : Selection → Option (List Selection)
  | .field _ _ _ _ set => set
  | .spread _ _ => none
  | .inline _ _ set => set

/-- Whether a field is put in at the place when a set is asked for its type names. A place is told by
the numbers of the selections on the way to it. -/
def addedAt (root : Bool) : Option (List Selection) → List Nat → Bool
  | none, _ => false
  | some _, [] => false
  | some selections, [number] =>
    number == selections.length && !(addition root selections).isEmpty
  | some selections, number :: place =>
    match selections[number]? with
    | none => false
    | some s => addedAt false s.inner place

mutual

/-- The selection without what stands at the places below it. -/
def without (gone : List Nat → Bool) : Selection → Selection
  | .field label name arguments directives set =>
    .field label name arguments directives (withoutSet gone set)
  | .spread name directives => .spread name directives
  | .inline condition directives set => .inline condition directives (withoutSet gone set)

def withoutSet (gone : List Nat → Bool) : Option (List Selection) → Option (List Selection)
  | none => none
  | some selections => some (withoutEach gone 0 selections)

/-- The first of the selections has the number, the others those behind it. -/
def withoutEach (gone : List Nat → Bool) (number : Nat) : List Selection → List Selection
  | [] => []
  | selection :: rest =>
    if gone [number] then withoutEach gone (number + 1) rest
    else
      selection.without (fun place => gone (number :: place)) ::
        withoutEach gone (number + 1) rest

end

section Unique

mutual

theorem asked_iff : ∀ {selection asked : Selection},
    Asked selection asked ↔ asked = selection.withTypename.value
  | .field label name arguments directives set, asked => by
    constructor
    · intro h
      cases h with
      | field inside => rw [setAsked_iff.mp inside]; rfl
    · rintro rfl
      exact .field (setAsked_iff.mpr rfl)
  | .spread name directives, asked => by
    constructor
    · intro h
      cases h with
      | spread => rfl
    · rintro rfl
      exact .spread name directives
  | .inline condition directives set, asked => by
    constructor
    · intro h
      cases h with
      | inline inside => rw [setAsked_iff.mp inside]; rfl
    · rintro rfl
      exact .inline (setAsked_iff.mpr rfl)

theorem setAsked_iff : ∀ {set asked : Option (List Selection)},
    SetAsked false set asked ↔ asked = (withTypenameSet set).value
  | none, asked => by
    constructor
    · intro h
      cases h with
      | absent => rfl
    · rintro rfl
      exact .absent false
  | some selections, asked => by
    rw [value_withTypenameSet]
    constructor
    · intro h
      cases h with
      | present each => rw [eachAsked_iff.mp each]
    · rintro rfl
      exact .present (eachAsked_iff.mpr rfl)

theorem eachAsked_iff : ∀ {selections asked : List Selection},
    List.Forall₂ Asked selections asked ↔ asked = selections.map fun s => s.withTypename.value
  | [], asked => List.forall₂_nil_left_iff
  | selection :: rest, asked => by
    rw [List.forall₂_cons_left_iff, List.map_cons]
    constructor
    · rintro ⟨first, others, hfirst, hothers, rfl⟩
      rw [asked_iff.mp hfirst, eachAsked_iff.mp hothers]
    · rintro rfl
      exact ⟨_, _, asked_iff.mpr rfl, eachAsked_iff.mpr rfl, rfl⟩

end

theorem rootAsked_iff {set asked : Option (List Selection)} :
    SetAsked true set asked ↔ asked = (withTypenameRoot set).value := by
  cases set with
  | none =>
    constructor
    · intro h
      cases h with
      | absent => rfl
    · rintro rfl
      exact .absent true
  | some selections =>
    rw [value_withTypenameRoot]
    constructor
    · intro h
      cases h with
      | present each => rw [eachAsked_iff.mp each]
    · rintro rfl
      exact .present (eachAsked_iff.mpr rfl)

end Unique

section Removal

variable {root : Bool} {selections : List Selection}

theorem addedAt_nil (set : Option (List Selection)) : addedAt root set [] = false := by
  cases set <;> rfl

theorem addedAt_cons {number : Nat} {selection : Selection}
    (h : selections[number]? = some selection) (place : List Nat) :
    addedAt root (some selections) (number :: place) = addedAt false selection.inner place := by
  have hlt : number < selections.length := (List.getElem?_eq_some_iff.mp h).1
  cases place with
  | nil =>
    have hn : (number == selections.length) = false := by simpa using Nat.ne_of_lt hlt
    rw [addedAt, hn, Bool.false_and, addedAt_nil]
  | cons next place => rw [addedAt, h]; simp

theorem withoutEach_addition :
    withoutEach (addedAt root (some selections)) selections.length (addition root selections) =
      [] := by
  by_cases h : root = false ∧ Untyped selections
  · simp [addition, h, withoutEach, addedAt]
  · simp [addition, h, withoutEach]

mutual

theorem Asked.without_eq : ∀ {selection asked : Selection}, Asked selection asked →
    asked.without (addedAt false selection.inner) = selection
  | .field label name arguments directives set, asked, h => by
    cases h with
    | field inside => exact congrArg (Selection.field label name arguments directives) inside.without_eq
  | .spread name directives, asked, h => by
    cases h with
    | spread => rfl
  | .inline condition directives set, asked, h => by
    cases h with
    | inline inside => exact congrArg (Selection.inline condition directives) inside.without_eq

theorem SetAsked.without_eq : ∀ {root : Bool} {set asked : Option (List Selection)},
    SetAsked root set asked → withoutSet (addedAt root set) asked = set
  | root, none, asked, h => by
    cases h with
    | absent => rfl
  | root, some selections, asked, h => by
    cases h with
    | present each => exact congrArg some (withoutEach_asked [] each)

theorem withoutEach_asked {root : Bool} : ∀ (before : List Selection) {rest asked : List Selection},
    List.Forall₂ Asked rest asked →
      withoutEach (addedAt root (some (before ++ rest))) before.length
        (asked ++ addition root (before ++ rest)) = rest
  | before, [], asked, h => by
    rw [List.forall₂_nil_left_iff.mp h, List.nil_append, List.append_nil]
    exact withoutEach_addition
  | before, selection :: rest, asked, h => by
    -- What was gone through is kept in `before`, since places are numbered from the start of the set.
    obtain ⟨first, others, hfirst, hothers, rfl⟩ := List.forall₂_cons_left_iff.mp h
    have hs : (before ++ selection :: rest)[before.length]? = some selection := by simp
    have hplaces : (fun place => addedAt root (some (before ++ selection :: rest))
        (before.length :: place)) = addedAt false selection.inner := funext (addedAt_cons hs)
    have hhere : addedAt root (some (before ++ selection :: rest)) [before.length] = false := by
      rw [addedAt_cons hs, addedAt_nil]
    have hbehind := @withoutEach_asked root (before ++ [selection]) rest others hothers
    rw [List.append_assoc, List.singleton_append, List.length_append, List.length_singleton]
      at hbehind
    rw [List.cons_append, withoutEach, hhere, hplaces, hfirst.without_eq, hbehind]
    rfl

end

end Removal

end Selection

namespace Definition

inductive Asked : Definition → Definition → Prop
  | operation {op : Operation} {set : SelectionSet}
      (asked : Selection.SetAsked true op.selections set) :
      Asked (.operation op) (.operation { op with selections := set })
  | fragment {f : Fragment} {set : SelectionSet}
      (asked : Selection.SetAsked false f.selections set) :
      Asked (.fragment f) (.fragment { f with selections := set })
  | typeSystem (kind : TypeSystemKind) : Asked (.typeSystem kind) (.typeSystem kind)

def addedAt : Definition → List Nat → Bool
  | operation op => Selection.addedAt true op.selections
  | fragment f => Selection.addedAt false f.selections
  | typeSystem _ => fun _ => false

def without (gone : List Nat → Bool) : Definition → Definition
  | operation op => .operation { op with selections := Selection.withoutSet gone op.selections }
  | fragment f => .fragment { f with selections := Selection.withoutSet gone f.selections }
  | typeSystem kind => .typeSystem kind

theorem asked_iff {definition asked : Definition} :
    Asked definition asked ↔ asked = definition.withTypename.value := by
  constructor
  · intro h
    cases h with
    | operation h => rw [Selection.rootAsked_iff.mp h]; rfl
    | fragment h => rw [Selection.setAsked_iff.mp h]; rfl
    | typeSystem => rfl
  · rintro rfl
    cases definition with
    | executable e =>
      cases e with
      | operation op => exact .operation (Selection.rootAsked_iff.mpr rfl)
      | fragment f => exact .fragment (Selection.setAsked_iff.mpr rfl)
    | typeSystem kind => exact .typeSystem kind

theorem Asked.without_eq {definition asked : Definition} (h : Asked definition asked) :
    asked.without definition.addedAt = definition := by
  cases h with
  | @operation op set h =>
    exact congrArg (fun set => Definition.operation { op with selections := set }) h.without_eq
  | @fragment f set h =>
    exact congrArg (fun set => Definition.fragment { f with selections := set }) h.without_eq
  | typeSystem => rfl

end Definition

namespace Document

/-- The first number of a place is that of the definition in which it is. -/
def addedAt (document : Document) : List Nat → Bool
  | [] => false
  | number :: place =>
    match document.definitions[number]? with
    | none => false
    | some definition => definition.addedAt place

def without (gone : List Nat → Bool) (document : Document) : Document :=
  ⟨document.definitions.mapIdx fun number definition =>
    definition.without fun place => gone (number :: place)⟩

theorem without_addedAt (document : Document) :
    document.normalized.without document.addedAt = document := by
  obtain ⟨definitions⟩ := document
  refine congrArg Document.mk (List.ext_getElem (by simp [definitions_normalized]) ?_)
  intro number h h'
  simp only [definitions_normalized, List.getElem_mapIdx, List.getElem_map]
  have hplaces : (fun place => (⟨definitions⟩ : Document).addedAt (number :: place)) =
      definitions[number].addedAt := by
    funext place
    rw [addedAt, List.getElem?_eq_getElem h']
  rw [hplaces]
  exact (Definition.asked_iff.mpr rfl).without_eq

/-- A document that has been asked for its type names has the definitions that it had before, in their
order. Those of a type system are left alone. In each of the others every set of selections holds what
it held, each selection asked in turn, and behind that a plain field for the type name just if the set
is not at the root of an operation, something was selected in it and nothing in it was of the kind kept
for questions about types. All else is as it was: no other document answers to this, and without the
fields that were put in it is the document there was before. -/
theorem asked_normalized (document other : Document) :
    (List.Forall₂ Definition.Asked document.definitions other.definitions ↔
      other = document.normalized) ∧
    document.normalized.without document.addedAt = document := by
  refine ⟨?_, document.without_addedAt⟩
  have hasked : Definition.Asked = fun definition asked => definition.withTypename.value = asked :=
    funext fun _ => funext fun _ => propext (Definition.asked_iff.trans eq_comm)
  rw [hasked, ← List.forall₂_map_left_iff (f := fun d : Definition => d.withTypename.value),
    List.forall₂_eq_eq_eq, ← definitions_normalized]
  exact ⟨fun h => congrArg Document.mk h.symm, fun h => congrArg Document.definitions h.symm⟩

end Document

end QueryRegistry
