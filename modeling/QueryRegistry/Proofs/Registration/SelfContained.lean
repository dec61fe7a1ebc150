import QueryRegistry.Proofs.Registration.Entries

/-! A query that has been listed stands for itself. The document of the fragments it was completed by
and the operation behind them needs nothing else: the operation is listed for it alone, with the entry
that it had among all the others, and is completed by the same fragments in the same order. -/

namespace QueryRegistry

open FragmentIndex

/-- The fragments by which an operation is completed, in the order in which they are met, and behind
them the operation. -/
def bundle (used : FragmentTable) (operation : Operation) : Document :=
  ⟨used.values.map .fragment ++ [.operation operation]⟩

section Bundle

variable {documents : List Document} {definition : Executable} {used : FragmentTable}

/-- A fragment that is sent is indexed under its name, and has been asked for its type names. -/
theorem settled_of_find?_sentIndex {name : String} {fragment : Fragment}
    (h : (sentIndex documents).find? name = some fragment) :
    fragment.name = name ∧ fragment.withTypename.value = fragment := by
  rw [find?_sentIndex] at h
  obtain ⟨original, ho, rfl⟩ := Option.map_eq_some_iff.mp h
  have hname : original.name = name := by simpa using List.find?_some ho
  exact ⟨hname, original.withTypename_idem⟩

theorem settled_of_mem_used (h : (sentIndex documents).used definition = .ok used)
    {entry : String × Fragment} (he : entry ∈ used.entries) :
    entry.2.name = entry.1 ∧ entry.2.withTypename.value = entry.2 :=
  settled_of_find?_sentIndex (find?_used h (Table.mem_entries_iff.mp he))

/-- What a definition uses is the index of the fragments it uses. -/
theorem ofFragments_values (h : (sentIndex documents).used definition = .ok used) :
    ofFragments used.values = used := by
  have he : used.values.map (fun fragment => (fragment.name, fragment)) = used.entries := by
    rw [Table.values, List.map_map]
    refine (List.map_congr_left fun entry hm => ?_).trans (List.map_id _)
    simp [(settled_of_mem_used h hm).1]
  rw [ofFragments, he, used.ofList_entries]

theorem fragments_bundle (used : FragmentTable) (operation : Operation) :
    (bundle used operation).fragments = used.values := by
  rw [Document.fragments, bundle, List.filterMap_append, List.filterMap_map]
  simp [Function.comp_def, Definition.fragment?]

theorem operations_bundle (used : FragmentTable) (operation : Operation) :
    (bundle used operation).operations = [operation] := by
  rw [Document.operations, bundle, List.filterMap_append, List.filterMap_map]
  simp [Function.comp_def, Definition.operation?]

theorem sentIndex_bundle (h : (sentIndex documents).used definition = .ok used)
    (operation : Operation) : sentIndex [bundle used operation] = used := by
  have hvalues : used.values.map (fun fragment => fragment.withTypename.value) = used.values := by
    rw [Table.values, List.map_map]
    exact List.map_congr_left fun entry hm => (settled_of_mem_used h hm).2
  rw [sentIndex, value_ofDocuments, fragments_normalized_all, List.flatMap_singleton,
    fragments_bundle, hvalues, ofFragments_values h]

/-- Among the fragments that it uses a definition finds all that it looks for. -/
theorem used_of_used {index : FragmentIndex} (h : index.used definition = .ok used) :
    FragmentIndex.used used definition = .ok used := by
  rw [← h]
  exact (used_congr fun x hx => (find?_eq_of_mem_used h ((mem_keys_used h).mpr hx)).symm).symm

theorem canonicalText_eq_of_used {index : FragmentIndex} {text : String}
    (hu : index.used definition = .ok used) (ht : index.canonicalText definition = .ok text) :
    FragmentIndex.canonicalText used definition = .ok text := by
  rw [canonicalText, canonicalDefinitions, hu] at ht
  rw [canonicalText, canonicalDefinitions, used_of_used hu]
  exact ht

theorem identifyAll_bundle {operation : Operation}
    (hu : (sentIndex documents).used (.operation operation.withTypename.value) = .ok used)
    {name text : String} (hname : operation.name = some name)
    (htext : sentText documents operation = .ok text) :
    identifyAll [bundle used operation] = .ok [(name, text)] := by
  have hsent : sentText [bundle used operation] operation = .ok text := by
    rw [sentText, sentIndex_bundle hu]
    exact canonicalText_eq_of_used hu htext
  have hone : identify [bundle used operation] operation = .ok (name, text) :=
    identify_eq_ok_iff.mpr ⟨hname, hsent⟩
  rw [identifyAll, List.flatMap_singleton, operations_bundle, mapM_eq_ok_iff, List.map_singleton,
    hone]
  rfl

end Bundle

/-- When the queries of the documents can be listed, each operation has the fragments by which it is
completed. From the document of these and the operation, be it as it stood or asked for its type names,
the list can be made too. It has one entry, which is the one that the operation got for the documents;
and what completes the operation is the same again. -/
theorem queryIds_bundle {choice : ModeChoice} {documents : List Document}
    {listed : Table String String} (h : (queryIds choice documents).result = .ok listed)
    {operation : Operation} (hop : operation ∈ documents.flatMap Document.operations) :
    ∃ mode name text used, choice.resolve = .ok mode ∧ operation.name = some name ∧
      sentText documents operation = .ok text ∧
      (sentIndex documents).used (.operation operation.withTypename.value) = .ok used ∧
      (mode.entry name text).1 ∈ listed.keys ∧
      ∀ asked, asked = operation ∨ asked = operation.withTypename.value →
        ∃ again, (queryIds choice [bundle used asked]).result = .ok again ∧
          again.entries = [mode.entry name text] ∧
          (sentIndex [bundle used asked]).used (.operation asked.withTypename.value) = .ok used := by
  obtain ⟨mode, sent, hmode, hsent, rfl⟩ := queryIds_eq_ok_iff.mp h
  obtain ⟨name, text, hs, hname, htext⟩ := exists_identified hsent hop
  obtain ⟨used, hu⟩ : ∃ used,
      (sentIndex documents).used (.operation operation.withTypename.value) = .ok used := by
    cases hu : (sentIndex documents).used (.operation operation.withTypename.value) with
    | ok used => exact ⟨used, rfl⟩
    | error error =>
      simp [sentText, canonicalText, canonicalDefinitions, hu, Except.map] at htext
  refine ⟨mode, name, text, used, hmode, hname, htext, hu, mode.mem_keys_list hs, ?_⟩
  intro asked hasked
  have hsame : asked.withTypename.value = operation.withTypename.value := by
    rcases hasked with rfl | rfl
    · rfl
    · exact operation.withTypename_idem
  have hname' : asked.name = some name := by
    rw [← asked.name_withTypename, hsame, operation.name_withTypename, hname]
  have htext' : sentText documents asked = .ok text := by rw [sentText, hsame]; exact htext
  rw [← hsame] at hu
  refine ⟨mode.list [(name, text)], ?_, rfl, ?_⟩
  · exact queryIds_eq_ok_iff.mpr ⟨mode, _, hmode, identifyAll_bundle hu hname' htext', rfl⟩
  · rw [sentIndex_bundle hu]
    exact used_of_used hu

theorem queryIds_bundle_scattered :
    ∃ listed, (queryIds (.ready .server) scattered).result = .ok listed ∧
      outerQuery ∈ scattered.flatMap Document.operations ∧
      ∃ text used again, sentText scattered outerQuery = .ok text ∧
        (sentIndex scattered).used (.operation outerQuery.withTypename.value) = .ok used ∧
        used.keys = ["Outer", "Inner"] ∧
        (queryIds (.ready .server) [bundle used outerQuery]).result = .ok again ∧
        again.entries = [(digestText text, text)] := by
  obtain ⟨listed, h⟩ : ∃ listed, (queryIds (.ready .server) scattered).result = .ok listed :=
    ⟨_, queryIds_eq_ok_iff.mpr ⟨_, _, rfl, rfl, rfl⟩⟩
  have hop : outerQuery ∈ scattered.flatMap Document.operations := List.mem_singleton.mpr rfl
  obtain ⟨mode, name, text, used, hmode, -, htext, hu, -, hagain⟩ := queryIds_bundle h hop
  obtain rfl : Mode.server = mode := Except.ok.inj hmode
  obtain ⟨again, hresult, hentries, -⟩ := hagain outerQuery (.inl rfl)
  have hkeys : ((sentIndex scattered).used (.operation outerQuery.withTypename.value)).map Table.keys =
      .ok ["Outer", "Inner"] := rfl
  rw [hu] at hkeys
  exact ⟨listed, h, hop, text, used, again, htext, hu, Except.ok.inj hkeys, hresult, hentries⟩

end QueryRegistry
