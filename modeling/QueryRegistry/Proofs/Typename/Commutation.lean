import QueryRegistry.Proofs.Fragment.Agreement
import QueryRegistry.Proofs.Typename.Spreads

/-! Asking for type names first or last. The index of documents that ask for their type names is the
index of the documents as they are with each of its fragments asked, and what a definition uses with it
is what it used before, asked in the same way, or else the same fault. -/

namespace QueryRegistry

namespace Table

variable {κ α β : Type}

def mapValues (f : α → β) (table : Table κ α) : Table κ β where
  entries := table.entries.map fun entry => (entry.1, f entry.2)
  nodup := by
    rw [List.map_map]
    exact table.nodup

theorem keys_mapValues (f : α → β) (table : Table κ α) : (table.mapValues f).keys = table.keys := by
  rw [keys, mapValues, List.map_map]
  rfl

theorem size_mapValues (f : α → β) (table : Table κ α) : (table.mapValues f).size = table.size :=
  List.length_map _

variable [DecidableEq κ]

theorem find?_mapValues (f : α → β) (table : Table κ α) (key : κ) :
    (table.mapValues f).find? key = (table.find? key).map f := by
  simp only [find?, mapValues]
  induction table.entries with
  | nil => rfl
  | cons entry rest ih =>
    rw [List.map_cons, List.lookup_cons, List.lookup_cons, ih]
    cases key == entry.1 <;> rfl

theorem contains_mapValues (f : α → β) (table : Table κ α) (key : κ) :
    (table.mapValues f).contains key = table.contains key := by
  rw [contains, keys_mapValues, contains]

theorem insert_mapValues (f : α → β) (table : Table κ α) (key : κ) (value : α) :
    (table.mapValues f).insert key (f value) = (table.insert key value).mapValues f := by
  refine eq_of_keys_of_find? ?_ fun other _ => ?_
  · rw [keys_insert, keys_mapValues, keys_mapValues, keys_insert]
  · rw [find?_insert, find?_mapValues, find?_mapValues, find?_insert]
    split <;> rfl

end Table

def FragmentTable.normalized (table : FragmentTable) : FragmentTable :=
  table.mapValues fun fragment => fragment.withTypename.value

theorem foldlM_map_of_commutes {m : Type → Type} [Monad m] [LawfulMonad m] {α β α' β' : Type}
    {step : β → α → m β} {step' : β' → α' → m β'} (f : β → β') (g : α → α')
    (h : ∀ b a, step' (f b) (g a) = f <$> step b a) (xs : List α) (b : β) :
    (xs.map g).foldlM step' (f b) = f <$> xs.foldlM step b := by
  induction xs generalizing b with
  | nil => rw [List.map_nil, List.foldlM_nil, List.foldlM_nil, map_pure]
  | cons x xs ih =>
    rw [List.map_cons, List.foldlM_cons, List.foldlM_cons, h, map_bind, bind_map_left]
    exact congrArg _ (funext ih)

namespace FragmentIndex

theorem add_normalized (index : FragmentIndex) (definition : Definition) :
    add index.normalized definition.withTypename.value =
      FragmentTable.normalized <$> add index definition := by
  unfold add
  rw [definition.fragment?_withTypename]
  cases definition.fragment? with
  | none => rfl
  | some fragment =>
    have hinsert := Table.insert_mapValues (fun f : Fragment => f.withTypename.value) index
      fragment.name fragment
    simp only [Option.map_some, fragment.name_withTypename, FragmentTable.normalized,
      Table.contains_mapValues, hinsert]
    split <;> rfl

theorem addSource_normalized (index : FragmentIndex) (document : Document) :
    addSource index.normalized (.document document.normalized) =
      FragmentTable.normalized <$> addSource index (.document document) := by
  rw [addSource, FragmentSource.definitions, document.definitions_normalized]
  exact foldlM_map_of_commutes _ _ add_normalized _ _

theorem ofDocuments_normalized (documents : List Document) :
    ofDocuments (documents.map Document.normalized) =
      FragmentTable.normalized <$> ofDocuments documents := by
  have hfold : (documents.map Document.normalized).foldlM
      (fun index document => addSource index (.document document)) Table.empty =
        FragmentTable.normalized <$> documents.foldlM
          (fun index document => addSource index (.document document)) Table.empty :=
    foldlM_map_of_commutes FragmentTable.normalized Document.normalized addSource_normalized
      documents Table.empty
  rw [ofDocuments, ofSources, List.foldlM_map, hfold, ofDocuments, ofSources, List.foldlM_map,
    map_bind, bind_map_left]
  refine congrArg _ (funext fun index => ?_)
  rw [map_bind, FragmentTable.normalized, Table.size_mapValues]
  rfl

theorem find?_normalized (index : FragmentIndex) (name : String) :
    index.normalized.find? name = (index.find? name).map fun f => f.withTypename.value :=
  Table.find?_mapValues _ index name

theorem agree_normalized (index : FragmentIndex) (names : List String) :
    index.Agree index.normalized names := by
  intro name _
  rw [find?_normalized, Option.map_map]
  exact congrArg (Option.map · _) (funext fun f => f.spreads_withTypename.symm)

/-- What is used is the same, asked for its type names, whatever the index holds. -/
theorem used_normalized (index : FragmentIndex) (definition : Executable) :
    used index.normalized definition.withTypename.value =
      (index.used definition).map FragmentTable.normalized := by
  have hpath : definition.startPath = definition.withTypename.value.startPath := by
    rw [Executable.startPath, Executable.startPath, definition.fragmentName?_withTypename]
  rcases used_of_agree hpath definition.spreads_withTypename.symm
    (agree_normalized index definition.spreads) with ⟨error, hu, hn⟩ | ⟨used, used', hu, hn, hk⟩
  · rw [hu, hn]
    rfl
  · rw [hu, hn]
    have hkeys : used'.keys = used.normalized.keys :=
      hk.symm.trans (Table.keys_mapValues _ used).symm
    refine congrArg Except.ok (Table.eq_of_keys_of_find? hkeys fun name hm => ?_)
    rw [find?_eq_of_mem_used hn hm, find?_normalized, find?_normalized,
      find?_eq_of_mem_used hu (hk ▸ hm)]

/-- Documents that ask for their type names are indexed with the same names in the same order, each with
its fragment asked for its type names. Whichever definition the walk starts from, an operation or a
fragment that is indexed, it then comes to the same names in the same order, each with its fragment
asked, or stops at the same fault. -/
theorem normalized_commutes (documents : List Document) :
    ofDocuments (documents.map Document.normalized) =
      FragmentTable.normalized <$> ofDocuments documents ∧
    ∀ definition : Executable,
      (ofDocuments (documents.map Document.normalized)).value.used definition.withTypename.value =
        ((ofDocuments documents).value.used definition).map FragmentTable.normalized := by
  have hindex := ofDocuments_normalized documents
  refine ⟨hindex, fun definition => ?_⟩
  rw [hindex]
  exact used_normalized _ definition

end FragmentIndex

end QueryRegistry
