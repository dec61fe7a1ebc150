import QueryRegistry.Registration
import QueryRegistry.Proofs.Fragment.Agreement
import QueryRegistry.Proofs.Fragment.LastDefinition
import QueryRegistry.Proofs.Typename.Spreads

/-! What the list of queries depends on. Of the documents only the operations count, in their order, and
the last definitions of the fragments that these reach. -/

namespace QueryRegistry

open FragmentIndex

theorem result_queryIds (choice : ModeChoice) (documents : List Document) :
    (queryIds choice documents).result =
      (choice.resolve.mapError .invalidMode).bind fun mode =>
        (((documents.map Document.normalized).flatMap Document.operations).foldlM
          (register mode (ofDocuments (documents.map Document.normalized)).value)
          Table.empty).result := by
  rw [queryIds, Run.result_bind, ModeChoice.resolveRun, Run.result_ofExcept]
  rfl

theorem queryIds_congr (choice : ModeChoice) {documents others : List Document}
    (h : documents.map Document.normalized = others.map Document.normalized) :
    queryIds choice documents = queryIds choice others := by
  simp only [queryIds, h]

theorem operations_normalized_all (documents : List Document) :
    (documents.map Document.normalized).flatMap Document.operations =
      (documents.flatMap Document.operations).map fun op => op.withTypename.value := by
  rw [List.flatMap_map, List.map_flatMap]
  exact List.flatMap_congr fun document _ => document.operations_normalized

theorem fragments_normalized_all (documents : List Document) :
    (documents.map Document.normalized).flatMap Document.fragments =
      (documents.flatMap Document.fragments).map fun f => f.withTypename.value := by
  rw [List.flatMap_map, List.map_flatMap]
  exact List.flatMap_congr fun document _ => document.fragments_normalized

theorem lastFragment?_normalized (documents : List Document) (name : String) :
    lastFragment? (documents.map Document.normalized) name =
      (lastFragment? documents name).map fun f => f.withTypename.value := by
  rw [lastFragment?, fragments_normalized_all, ← List.map_reverse, List.find?_map]
  rfl

theorem keys_ofDocuments_normalized (documents : List Document) :
    (ofDocuments (documents.map Document.normalized)).value.keys =
      (ofDocuments documents).value.keys := by
  rw [keys_ofDocuments, keys_ofDocuments, fragments_normalized_all, List.map_map]
  rfl

/-- Asking for type names changes nothing that the graph of spreads is made of. -/
theorem leads_normalized (documents : List Document) :
    Leads (lastFragment? (documents.map Document.normalized)) = Leads (lastFragment? documents) := by
  funext a b
  refine propext ⟨?_, ?_⟩
  · rintro ⟨fragment, hf, hb⟩
    rw [lastFragment?_normalized] at hf
    obtain ⟨original, ho, rfl⟩ := Option.map_eq_some_iff.mp hf
    exact ⟨original, ho, original.spreads_withTypename ▸ hb⟩
  · rintro ⟨fragment, hf, hb⟩
    refine ⟨fragment.withTypename.value, ?_, fragment.spreads_withTypename.symm ▸ hb⟩
    rw [lastFragment?_normalized, hf, Option.map_some]

theorem reaches_normalized (documents : List Document) (definition : Executable) :
    Reaches (lastFragment? (documents.map Document.normalized)) definition.withTypename.value =
      Reaches (lastFragment? documents) definition := by
  funext name
  rw [Reaches, Reaches, ReachesFrom, ReachesFrom, leads_normalized, definition.spreads_withTypename]

theorem find?_ofDocuments_eq (documents : List Document) :
    (ofDocuments documents).value.find? = lastFragment? documents :=
  funext (find?_ofDocuments documents)

theorem register_congr {mode : Mode} {index other : FragmentIndex} {operation : Operation}
    (h : index.canonicalText (.operation operation) = other.canonicalText (.operation operation))
    (listed : Table String String) :
    register mode index listed operation = register mode other listed operation := by
  rw [register, register, h]

theorem foldlM_register_congr {mode : Mode} {index other : FragmentIndex}
    {operations : List Operation}
    (h : ∀ op ∈ operations, index.canonicalText (.operation op) = other.canonicalText (.operation op))
    (listed : Table String String) :
    operations.foldlM (register mode index) listed =
      operations.foldlM (register mode other) listed := by
  induction operations generalizing listed with
  | nil => rfl
  | cons op rest ih =>
    rw [List.foldlM_cons, List.foldlM_cons, register_congr (h op List.mem_cons_self)]
    exact congrArg _ (funext fun _ => ih (fun o ho => h o (List.mem_cons_of_mem _ ho)) _)

/-- Two lists of documents with the same operations in the same order, and with the same last
definition of each fragment that one of the operations reaches, give the same list of queries or the
same failure. How the definitions are spread over documents, what comes first, earlier definitions that
a later one replaces and whatever no operation reaches make no difference. -/
theorem queryIds_eq_of_same_reachable (choice : ModeChoice) (documents others : List Document)
    (hops : documents.flatMap Document.operations = others.flatMap Document.operations)
    (hfrags : ∀ op ∈ documents.flatMap Document.operations, ∀ name,
      Reaches (lastFragment? documents) (.operation op) name →
        lastFragment? documents name = lastFragment? others name) :
    (queryIds choice documents).result = (queryIds choice others).result := by
  rw [result_queryIds, result_queryIds, operations_normalized_all, operations_normalized_all, hops]
  refine congrArg _ (funext fun mode => congrArg _ (foldlM_register_congr (fun op hop => ?_) _))
  obtain ⟨original, ho, rfl⟩ := List.mem_map.mp hop
  refine canonicalText_congr fun x hx => ?_
  rw [find?_ofDocuments_eq] at hx
  have hr : Reaches (lastFragment? documents) (.operation original) x :=
    reaches_normalized documents (.operation original) ▸ hx
  rw [find?_ofDocuments, find?_ofDocuments, lastFragment?_normalized, lastFragment?_normalized,
    hfrags original (hops ▸ ho) x hr]

section Rearrangement

def outerFragment : Fragment := spreadingFragment "Outer" ["Inner", "Inner"]

def innerFragment : Fragment := spreadingFragment "Inner" []

def outerQuery : Operation := spreadingQuery (some "Q") ["Outer"]

def gathered : List Document :=
  [⟨[.operation outerQuery, .fragment outerFragment, .fragment innerFragment]⟩]

/-- The same with an earlier definition, a type and a fragment that is not used. -/
def scattered : List Document :=
  [⟨[.fragment { innerFragment with condition := "U" }, .typeSystem .object]⟩,
    ⟨[.fragment innerFragment, .fragment { outerFragment with name := "Unused" }]⟩,
    ⟨[.fragment outerFragment, .operation outerQuery]⟩]

theorem queryIds_scattered :
    (queryIds (.ready .server) gathered).result = (queryIds (.ready .server) scattered).result := by
  refine queryIds_eq_of_same_reachable _ gathered scattered rfl fun op hop name hr => ?_
  obtain rfl : op = outerQuery := List.mem_singleton.mp hop
  obtain ⟨used, hu⟩ : ∃ used,
      (ofDocuments gathered).value.used (.operation outerQuery) = .ok used := ⟨_, rfl⟩
  have hk : ((ofDocuments gathered).value.used (.operation outerQuery)).map Table.keys =
      .ok ["Outer", "Inner"] := rfl
  rw [hu] at hk
  rw [← find?_ofDocuments_eq, ← mem_keys_used hu, Except.ok.inj hk] at hr
  simp only [List.mem_cons, List.not_mem_nil, or_false] at hr
  rcases hr with rfl | rfl <;> rfl

end Rearrangement

end QueryRegistry
