import QueryRegistry.Fragment.Index
import QueryRegistry.Proofs.Table.Occurrence

/-! The index of a list of documents. It is the table of the fragments of all the documents, one after
the other, so that a name is looked up in it as the last definition of that name. -/

namespace QueryRegistry

/-- The last fragment of that name in the documents. -/
def lastFragment? (documents : List Document) (name : String) : Option Fragment :=
  (documents.flatMap Document.fragments).reverse.find? (·.name == name)

def definedFragments (sources : List FragmentSource) : List Fragment :=
  (sources.flatMap FragmentSource.definitions).filterMap Definition.fragment?

namespace FragmentIndex

def ofFragments (fragments : List Fragment) : FragmentIndex :=
  Table.ofList (fragments.map fun fragment => (fragment.name, fragment))

def addFragment (index : FragmentIndex) (fragment : Fragment) : Logged FragmentIndex :=
  add index (.fragment fragment)

theorem value_addFragment (index : FragmentIndex) (fragment : Fragment) :
    (addFragment index fragment).value = index.insert fragment.name fragment := by
  unfold addFragment add
  simp only [Definition.fragment?]
  split <;> rfl

theorem foldlM_addSource (sources : List FragmentSource) (index : FragmentIndex) :
    sources.foldlM addSource index =
      (sources.flatMap FragmentSource.definitions).foldlM add index := by
  induction sources generalizing index with
  | nil => rfl
  | cons source rest ih =>
    rw [List.foldlM_cons, List.flatMap_cons, List.foldlM_append, addSource]
    exact congrArg _ (funext ih)

theorem foldlM_add (definitions : List Definition) (index : FragmentIndex) :
    definitions.foldlM add index =
      (definitions.filterMap Definition.fragment?).foldlM addFragment index := by
  rw [List.foldlM_filterMap]
  congr 1
  funext index definition
  unfold addFragment add
  cases definition.fragment? <;> rfl

/-- Where the fragments come from and what stands between them makes no difference. -/
theorem ofSources_eq (sources : List FragmentSource) :
    ofSources sources = do
      let index ← (definedFragments sources).foldlM addFragment Table.empty
      Logged.record (.indexed index.size)
      return index := by
  rw [ofSources, foldlM_addSource, foldlM_add, definedFragments]

theorem value_foldlM_addFragment (fragments : List Fragment) (index : FragmentIndex) :
    (fragments.foldlM addFragment index).value =
      fragments.foldl (fun index f => index.insert f.name f) index := by
  induction fragments generalizing index with
  | nil => rfl
  | cons fragment rest ih =>
    rw [List.foldlM_cons, Logged.value_bind, ih, value_addFragment, List.foldl_cons]

theorem value_foldlM_empty (fragments : List Fragment) :
    (fragments.foldlM addFragment Table.empty).value = ofFragments fragments := by
  rw [value_foldlM_addFragment, ofFragments, Table.ofList, List.foldl_map]

theorem value_ofSources (sources : List FragmentSource) :
    (ofSources sources).value = ofFragments (definedFragments sources) := by
  rw [ofSources_eq, Logged.value_bind, value_foldlM_empty]
  rfl

theorem definedFragments_map_document (documents : List Document) :
    definedFragments (documents.map .document) = documents.flatMap Document.fragments := by
  rw [definedFragments]
  induction documents with
  | nil => rfl
  | cons document rest ih =>
    rw [List.map_cons, List.flatMap_cons, List.filterMap_append, ih, List.flatMap_cons]
    rfl

theorem value_ofDocuments (documents : List Document) :
    (ofDocuments documents).value = ofFragments (documents.flatMap Document.fragments) := by
  rw [ofDocuments, value_ofSources, definedFragments_map_document]

theorem find?_ofFragments (fragments : List Fragment) (name : String) :
    (ofFragments fragments).find? name = fragments.reverse.find? (·.name == name) := by
  rw [ofFragments, Table.find?_ofList, ← List.map_reverse]
  induction fragments.reverse with
  | nil => rfl
  | cons fragment rest ih =>
    rw [List.map_cons, List.lookup_cons, List.find?_cons, ih, BEq.comm]

theorem find?_ofDocuments (documents : List Document) (name : String) :
    (ofDocuments documents).value.find? name = lastFragment? documents name := by
  rw [value_ofDocuments, find?_ofFragments, lastFragment?]

theorem keys_ofDocuments (documents : List Document) :
    (ofDocuments documents).value.keys =
      ((documents.flatMap Document.fragments).map Fragment.name).eraseDups := by
  rw [value_ofDocuments, ofFragments, Table.keys_ofList, List.map_map]
  rfl

end FragmentIndex

end QueryRegistry
