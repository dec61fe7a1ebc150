import QueryRegistry.Proofs.Typename.Completion

/-! When asking for type names changes nothing. A pass tells that something was added just if the value
behind it is another one, and both are the case just if some set of selections, not at the root of an
operation, selects something without asking for a type. -/

namespace QueryRegistry

namespace Revised

variable {α β : Type}

/-- The pass over the value tells of a change just if there is one, which is when it is not settled. -/
structure Tells (r : Revised α) (a : α) (settled : Prop) : Prop where
  changed : r.changed = false ↔ settled
  value : r.value = a ↔ settled

theorem tells_same (a : α) {settled : Prop} (h : settled) : (same a).Tells a settled :=
  ⟨iff_of_true rfl h, iff_of_true rfl h⟩

theorem Tells.map {r : Revised α} {a : α} {settled : Prop} (h : r.Tells a settled) {f : α → β}
    (hf : Function.Injective f) : (r.map f).Tells (f a) settled :=
  ⟨h.changed, hf.eq_iff.trans h.value⟩

theorem Tells.cons {head : Revised α} {tail : Revised (List α)} {a : α} {as : List α}
    {settled settled' : Prop} (hhead : head.Tells a settled) (htail : tail.Tells as settled') :
    (head.cons tail).Tells (a :: as) (settled ∧ settled') where
  changed := by
    have hor : (head.changed || tail.changed) = false ↔
        head.changed = false ∧ tail.changed = false := Bool.or_eq_false_iff
    rw [← hhead.changed, ← htail.changed, ← hor]
    rfl
  value := by
    rw [← hhead.value, ← htail.value, ← List.cons.injEq]
    rfl

theorem Tells.congr {r : Revised α} {a : α} {settled settled' : Prop} (h : r.Tells a settled)
    (hs : settled ↔ settled') : r.Tells a settled' :=
  ⟨h.changed.trans hs, h.value.trans hs⟩

end Revised

namespace Selection

/-- If anything is selected, a field is whose name, whatever it is labelled, begins with two
underscores. -/
def Typed (selections : List Selection) : Prop :=
  selections ≠ [] → ∃ label name arguments directives set,
    Selection.field label name arguments directives set ∈ selections ∧ ['_', '_'] <+: name.toList

/-- The first set is the second, or stands in it at any depth. -/
inductive StandsIn (set : List Selection) : Option (List Selection) → Prop
  | self : StandsIn set (some set)
  | inside {selections : List Selection} {s : Selection} (mem : s ∈ selections)
      (below : StandsIn set s.inner) : StandsIn set (some selections)

def TypedThroughout (set : Option (List Selection)) : Prop :=
  ∀ selections, StandsIn selections set → Typed selections

theorem typed_iff_not_untyped {selections : List Selection} :
    Typed selections ↔ ¬ Untyped selections := by
  constructor
  · rintro ht ⟨hne, hu⟩
    obtain ⟨label, name, arguments, directives, set, hm, hn⟩ := ht hne
    exact hu label name arguments directives set hm hn
  · intro hu hne
    by_contra hnone
    refine hu ⟨hne, fun label name arguments directives set hm hn => hnone ?_⟩
    exact ⟨label, name, arguments, directives, set, hm, hn⟩

theorem typedThroughout_none : TypedThroughout none := by
  intro selections h
  cases h

theorem typedThroughout_some {selections : List Selection} :
    TypedThroughout (some selections) ↔
      (∀ s ∈ selections, TypedThroughout s.inner) ∧ Typed selections := by
  constructor
  · intro h
    exact ⟨fun s hs inner hinner => h inner (.inside hs hinner), h selections .self⟩
  · rintro ⟨hbelow, hself⟩ inner hinner
    cases hinner with
    | self => exact hself
    | inside hs hinner => exact hbelow _ hs inner hinner

theorem addition_eq_nil_iff {selections : List Selection} :
    addition false selections = [] ↔ Typed selections := by
  rw [typed_iff_not_untyped, addition]
  by_cases hu : Untyped selections <;> simp [hu]

theorem changed_askTypename (selections : List Selection) :
    (askTypename selections).changed = false ↔ addition false selections = [] := by
  have hv := value_askTypename selections
  rw [askTypename] at hv ⊢
  split
  next h =>
    rw [if_pos h] at hv
    have hnil : addition false selections = [] := by simpa [Revised.same] using hv
    simp [Revised.same, hnil]
  next h =>
    rw [if_neg h] at hv
    have hcons : addition false selections = [typenameField] := by simpa using hv.symm
    simp [hcons]

theorem tells_asked {selections : List Selection} {settled : Prop}
    (h : (withTypenameEach selections).Tells selections settled) :
    ((withTypenameEach selections).andThen askTypename).Tells selections
      (settled ∧ Typed selections) := by
  have hadd : addition false (withTypenameEach selections).value = addition false selections := by
    rw [value_withTypenameEach, addition_withTypename]
  have hlength : (withTypenameEach selections).value.length = selections.length := by
    rw [value_withTypenameEach, List.length_map]
  rw [← addition_eq_nil_iff, ← hadd]
  constructor
  · rw [← h.changed, ← changed_askTypename, ← Bool.or_eq_false_iff]
    rfl
  · rw [← h.value]
    change (askTypename (withTypenameEach selections).value).value = selections ↔ _
    rw [value_askTypename]
    constructor
    · intro he
      have happend : (withTypenameEach selections).value ++
          addition false (withTypenameEach selections).value = selections ++ [] := by
        rw [he, List.append_nil]
      exact List.append_inj happend hlength
    · rintro ⟨he, hnil⟩
      rw [hnil, List.append_nil, he]

mutual

theorem tells_withTypename : ∀ s : Selection, s.withTypename.Tells s (TypedThroughout s.inner)
  | .field _ _ _ _ set =>
    (tells_withTypenameSet set).map fun _ _ h => (Selection.field.inj h).2.2.2.2
  | .spread _ _ => Revised.tells_same _ typedThroughout_none
  | .inline _ _ set =>
    (tells_withTypenameSet set).map fun _ _ h => (Selection.inline.inj h).2.2

theorem tells_withTypenameSet : ∀ set : Option (List Selection),
    (withTypenameSet set).Tells set (TypedThroughout set)
  | none => Revised.tells_same _ typedThroughout_none
  | some selections =>
    ((tells_asked (tells_withTypenameEach selections)).map fun _ _ => Option.some.inj).congr
      typedThroughout_some.symm

theorem tells_withTypenameEach : ∀ selections : List Selection,
    (withTypenameEach selections).Tells selections (∀ s ∈ selections, TypedThroughout s.inner)
  | [] => Revised.tells_same _ (by simp)
  | selection :: rest =>
    ((tells_withTypename selection).cons (tells_withTypenameEach rest)).congr
      (by rw [List.forall_mem_cons])

end

theorem tells_withTypenameRoot (set : Option (List Selection)) :
    (withTypenameRoot set).Tells set (∀ selections, set = some selections →
      ∀ s ∈ selections, TypedThroughout s.inner) := by
  cases set with
  | none => exact Revised.tells_same _ (by simp)
  | some selections =>
    refine ((tells_withTypenameEach selections).map fun _ _ => Option.some.inj).congr ?_
    simp

end Selection

/-- The set stands in the definition, but not as the one at the root of an operation. -/
inductive Definition.Encloses : Definition → List Selection → Prop
  | operation {op : Operation} {root set : List Selection} {s : Selection}
      (top : op.selections = some root) (mem : s ∈ root) (below : Selection.StandsIn set s.inner) :
      Encloses (.operation op) set
  | fragment {f : Fragment} {set : List Selection} (below : Selection.StandsIn set f.selections) :
      Encloses (.fragment f) set

def Definition.Typed (definition : Definition) : Prop :=
  ∀ set, definition.Encloses set → Selection.Typed set

theorem Definition.typed_operation {op : Operation} : (Definition.operation op).Typed ↔
    ∀ root, op.selections = some root → ∀ s ∈ root, Selection.TypedThroughout s.inner := by
  constructor
  · intro h root hroot s hs set hset
    exact h set (.operation hroot hs hset)
  · intro h set hset
    cases hset with
    | operation top mem below => exact h _ top _ mem set below

theorem Definition.typed_fragment {f : Fragment} : (Definition.fragment f).Typed ↔
    Selection.TypedThroughout f.selections := by
  constructor
  · intro h set hset
    exact h set (.fragment hset)
  · intro h set hset
    cases hset with
    | fragment below => exact h set below

theorem Definition.typed_typeSystem (kind : TypeSystemKind) : (Definition.typeSystem kind).Typed := by
  intro set hset
  cases hset

theorem Definition.tells_withTypename (definition : Definition) :
    definition.withTypename.Tells definition definition.Typed := by
  cases definition with
  | executable e =>
    cases e with
    | operation op =>
      have hop := Selection.tells_withTypenameRoot op.selections
      have hinj : Function.Injective fun set => Definition.operation { op with selections := set } :=
        fun _ _ h => congrArg Executable.selections (Definition.executable.inj h)
      exact (hop.map hinj).congr typed_operation.symm
    | fragment f =>
      have hf := Selection.tells_withTypenameSet f.selections
      have hinj : Function.Injective fun set => Definition.fragment { f with selections := set } :=
        fun _ _ h => congrArg Executable.selections (Definition.executable.inj h)
      exact (hf.map hinj).congr typed_fragment.symm
  | typeSystem kind => exact Revised.tells_same _ (typed_typeSystem kind)

namespace Document

theorem tells_withTypenameAll (definitions : List Definition) :
    (withTypenameAll definitions).Tells definitions (∀ d ∈ definitions, d.Typed) := by
  induction definitions with
  | nil => exact Revised.tells_same _ (by simp)
  | cons definition rest ih =>
    exact (definition.tells_withTypename.cons ih).congr List.forall_mem_cons.symm

theorem tells_withTypename (document : Document) :
    document.withTypename.Tells document (∀ d ∈ document.definitions, d.Typed) :=
  (tells_withTypenameAll document.definitions).map fun _ _ h => congrArg Document.definitions h

/-- A document is handed back as it was, and said to be, just if each set of selections that is not at
the root of an operation and selects something has a field whose name begins with two underscores; and
only then is it the same document. Behind a first pass that is always so. -/
theorem withTypename_changed_iff (document : Document) :
    (document.withTypename.changed = false ↔
      ∀ d ∈ document.definitions, ∀ set, d.Encloses set → Selection.Typed set) ∧
    (document.withTypename.value = document ↔
      ∀ d ∈ document.definitions, ∀ set, d.Encloses set → Selection.Typed set) ∧
    document.normalized.withTypename.changed = false ∧
    document.normalized.withTypename.value = document.normalized := by
  have hfirst := document.tells_withTypename
  have hsecond := document.normalized.tells_withTypename
  have hidem : document.normalized.withTypename.value = document.normalized :=
    document.normalized_idem
  refine ⟨hfirst.changed, hfirst.value, ?_, hidem⟩
  exact hsecond.changed.mpr (hsecond.value.mp hidem)

end Document

end QueryRegistry
