import QueryRegistry.Proofs.Json.RoundTrip
import QueryRegistry.Proofs.Registration.Modes

/-! The list of queries as the text that is handed on. Whoever reads it as JSON has the list again: its
entries, in their order, and for the server the digest of each text under which the text is kept. -/

namespace QueryRegistry

theorem result_queryList (choice : ModeChoice) (documents : List Document) :
    (queryList choice documents).result =
      (queryIds choice documents).result.map fun listed => Json.writeObject listed.entries := by
  rw [queryList, Run.result_bind]
  cases (queryIds choice documents).result <;> rfl

theorem queryList_eq_ok_iff {choice : ModeChoice} {documents : List Document} {text : String} :
    (queryList choice documents).result = .ok text ↔ ∃ listed,
      (queryIds choice documents).result = .ok listed ∧ Json.writeObject listed.entries = text := by
  rw [result_queryList]
  cases (queryIds choice documents).result <;> simp [Except.map]

/-- What the list of queries holds, as it is read from its text. -/
def listMembers (listed : Table String String) : List (String × Json) :=
  listed.entries.map fun entry => (entry.1, .string entry.2)

theorem digested_of_server {choice : ModeChoice} (hserver : choice.resolve = .ok .server)
    {documents : List Document} {listed : Table String String}
    (h : (queryIds choice documents).result = .ok listed) :
    ∀ entry ∈ listed.entries, entry.1 = digestText entry.2 := by
  obtain ⟨mode, sent, hmode, hsent, rfl⟩ := queryIds_eq_ok_iff.mp h
  obtain rfl : mode = .server := Except.ok.inj (hmode.symm.trans hserver)
  exact (listsAgree_list hsent).digested

/-- The text that is handed on is read as one object with the entries of the list as its members, each
once and in order. No other table has that text. In the text for the server each member is named by the
digest of what it holds. -/
theorem queryList_reads_back {choice : ModeChoice} {documents : List Document} {text : String}
    (h : (queryList choice documents).result = .ok text) :
    ∃ listed, (queryIds choice documents).result = .ok listed ∧
      Json.read text = some (.object (listMembers listed)) ∧
      (∀ other : Table String String, Json.writeObject other.entries = text → other = listed) ∧
      (choice.resolve = .ok .server → ∀ members, Json.read text = some (.object members) →
        ∀ member ∈ members, ∃ value, member.2 = .string value ∧ member.1 = digestText value) := by
  obtain ⟨listed, hlisted, rfl⟩ := queryList_eq_ok_iff.mp h
  have hread := Json.read_writeObject listed.entries
  refine ⟨listed, hlisted, hread, fun other hwritten => ?_,
    fun hserver members hmembers member hm => ?_⟩
  · exact Table.eq_of_entries (Json.writeObject_injective hwritten)
  · rw [hread, Option.some.injEq, Json.object.injEq] at hmembers
    subst hmembers
    obtain ⟨entry, he, rfl⟩ := List.mem_map.mp hm
    exact ⟨entry.2, rfl, digested_of_server hserver hlisted entry he⟩

section Escapes

/-- A query whose name and text hold all that has to be escaped, and much that need not be. -/
def awkwardQuery : Operation :=
  { name := some "a\"b\\c\n\t\x01\x7f\u2028😀",
    selections := some [.field none "f"
      [("x", .quoted ⟨"\"\n\x02", false⟩), ("y", .quoted ⟨"two\nlines \"", true⟩)] [] none] }

theorem queryList_awkwardQuery :
    ∃ text listed, (queryList (.setting (.text "server")) [⟨[.operation awkwardQuery]⟩]).result =
        .ok text ∧
      (queryIds (.setting (.text "server")) [⟨[.operation awkwardQuery]⟩]).result = .ok listed ∧
      Json.read text = some (.object (listMembers listed)) ∧
      ∀ member ∈ listMembers listed,
        ∃ value, member.2 = .string value ∧ member.1 = digestText value := by
  obtain ⟨listed, hlisted⟩ : ∃ listed, (queryIds (.setting (.text "server"))
      [⟨[.operation awkwardQuery]⟩]).result = .ok listed :=
    ⟨_, queryIds_eq_ok_iff.mpr ⟨_, _, rfl, rfl, rfl⟩⟩
  have htext : (queryList (.setting (.text "server")) [⟨[.operation awkwardQuery]⟩]).result =
      .ok (Json.writeObject listed.entries) := queryList_eq_ok_iff.mpr ⟨listed, hlisted, rfl⟩
  obtain ⟨listed', hlisted', hread, -, hdigested⟩ := queryList_reads_back htext
  exact ⟨_, listed', htext, hlisted', hread, hdigested rfl _ hread⟩

end Escapes

end QueryRegistry
