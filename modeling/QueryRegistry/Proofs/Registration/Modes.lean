import QueryRegistry.Proofs.Registration.Entries

/-! The lists for the client and for the server are made from the same operations. Though they have
different keys, and so keep different entries when names or texts come more than once, what the client
is told to send is what the server knows. -/

namespace QueryRegistry

def lastOperation? (documents : List Document) (name : String) : Option Operation :=
  (documents.flatMap Document.operations).reverse.find? (·.name == some name)

/-- How the list for the client and the list for the server of the same documents go together. -/
structure ListsAgree (documents : List Document) (client server : Table String String) : Prop where
  /-- The server's keys are the digests of its texts. -/
  digested : ∀ entry ∈ server.entries, entry.1 = digestText entry.2
  /-- The server knows each operation, though a later one may have its name. -/
  registered : ∀ op ∈ documents.flatMap Document.operations,
    ∃ text, sentText documents op = .ok text ∧ digestText text ∈ server.keys
  /-- The client sends nothing that the server does not know. -/
  known : ∀ digest ∈ client.values, digest ∈ server.keys
  /-- The server knows nothing but the operations. -/
  founded : ∀ digest ∈ server.keys, ∃ op ∈ documents.flatMap Document.operations,
    ∃ text, sentText documents op = .ok text ∧ digest = digestText text
  /-- The client has a digest for the name of each operation. -/
  named : ∀ op ∈ documents.flatMap Document.operations,
    ∃ name, op.name = some name ∧ name ∈ client.keys

/-- No two texts that are sent have the same digest. -/
def TextsApart (documents : List Document) : Prop :=
  ∀ op ∈ documents.flatMap Document.operations,
    ∀ other ∈ documents.flatMap Document.operations, ∀ text text' : String,
      sentText documents op = .ok text → sentText documents other = .ok text' →
        digestText text = digestText text' → text = text'

/-- What holds of the two lists when a digest stands for one text only. -/
structure TextsAgree (documents : List Document) (client server : Table String String) :
    Prop where
  /-- By the digest that the client has for a name the server finds the text of the last operation of
  that name. -/
  found : ∀ name digest, client.find? name = some digest →
    ∃ op text, lastOperation? documents name = some op ∧ sentText documents op = .ok text ∧
      server.find? digest = some text
  /-- The server's texts are those of the operations. -/
  texts : ∀ text, text ∈ server.values ↔
    ∃ op ∈ documents.flatMap Document.operations, sentText documents op = .ok text

section Identified

variable {documents : List Document} {sent : List (String × String)}

theorem find?_clientList {name digest : String}
    (h : (Mode.client.list sent).find? name = some digest) :
    ∃ text, (name, text) ∈ sent ∧ digest = digestText text := by
  obtain ⟨s, hs, he⟩ := List.mem_map.mp (Table.mem_of_find?_ofList h)
  obtain ⟨rfl, rfl⟩ := Prod.mk.inj he
  exact ⟨s.2, hs, rfl⟩

theorem find?_serverList {digest text : String}
    (h : (Mode.server.list sent).find? digest = some text) :
    digest = digestText text ∧ ∃ name, (name, text) ∈ sent := by
  obtain ⟨s, hs, he⟩ := List.mem_map.mp (Table.mem_of_find?_ofList h)
  obtain ⟨rfl, rfl⟩ := Prod.mk.inj he
  exact ⟨rfl, s.1, hs⟩

theorem listsAgree_list (h : identifyAll documents = .ok sent) :
    ListsAgree documents (Mode.client.list sent) (Mode.server.list sent) where
  digested := fun _ he => (find?_serverList (Table.mem_entries_iff.mp he)).1
  registered := by
    intro op hop
    obtain ⟨name, text, hs, _, htext⟩ := exists_identified h hop
    exact ⟨text, htext, Mode.server.mem_keys_list hs⟩
  known := by
    intro digest hd
    obtain ⟨name, hf⟩ := Table.mem_values_iff.mp hd
    obtain ⟨text, hs, rfl⟩ := find?_clientList hf
    exact Mode.server.mem_keys_list hs
  founded := by
    intro digest hd
    obtain ⟨text, hf⟩ := Table.mem_keys_iff.mp hd
    obtain ⟨rfl, name, hs⟩ := find?_serverList hf
    obtain ⟨op, hop, _, htext⟩ := exists_operation h hs
    exact ⟨op, hop, text, htext, rfl⟩
  named := by
    intro op hop
    obtain ⟨name, text, hs, hname, _⟩ := exists_identified h hop
    exact ⟨name, hname, Mode.client.mem_keys_list hs⟩

/-- The first of the operations that has a name is identified by the first pair with it. -/
theorem find?_of_lookup_entry {operations : List Operation}
    (h : operations.map (identify documents) = sent.map .ok) {name digest : String}
    (hd : (sent.map fun s => Mode.client.entry s.1 s.2).lookup name = some digest) :
    ∃ op text, operations.find? (·.name == some name) = some op ∧
      sentText documents op = .ok text ∧ digest = digestText text := by
  induction operations generalizing sent with
  | nil =>
    obtain rfl : sent = [] := by simpa using h.symm
    simp at hd
  | cons op rest ih =>
    cases sent with
    | nil => simp at h
    | cons first others =>
      obtain ⟨hop, hrest⟩ := List.cons.inj h
      obtain ⟨hname, htext⟩ := identify_eq_ok_iff.mp hop
      rw [List.map_cons, List.lookup_cons] at hd
      by_cases hn : name = first.1
      · refine ⟨op, first.2, ?_, htext, ?_⟩
        · simp [hname, hn]
        · simpa [Mode.entry, hn] using hd.symm
      · have hne : (op.name == some name) = false := by simpa [hname] using Ne.symm hn
        rw [List.find?_cons, hne]
        refine ih hrest ?_
        simpa [Mode.entry, beq_eq_false_iff_ne.mpr hn] using hd

theorem exists_lastOperation (h : identifyAll documents = .ok sent) {name digest : String}
    (hd : (Mode.client.list sent).find? name = some digest) :
    ∃ op text, lastOperation? documents name = some op ∧ sentText documents op = .ok text ∧
      digest = digestText text := by
  rw [Mode.list, Table.find?_ofList, ← List.map_reverse] at hd
  refine find?_of_lookup_entry ?_ hd
  rw [List.map_reverse, mapM_eq_ok_iff.mp h, List.map_reverse]

theorem find?_digestText (h : identifyAll documents = .ok sent) (hd : TextsApart documents)
    {op : Operation} (hop : op ∈ documents.flatMap Document.operations) {text : String}
    (htext : sentText documents op = .ok text) :
    (Mode.server.list sent).find? (digestText text) = some text := by
  obtain ⟨text', htext', hk⟩ := (listsAgree_list h).registered op hop
  obtain rfl : text = text' := Except.ok.inj (htext.symm.trans htext')
  obtain ⟨held, hf⟩ := Table.mem_keys_iff.mp hk
  obtain ⟨hdigest, name, hs⟩ := find?_serverList hf
  obtain ⟨other, hother, _, hheld⟩ := exists_operation h hs
  rw [hf, hd op hop other hother text held htext hheld hdigest]

theorem textsAgree_list (h : identifyAll documents = .ok sent) (hd : TextsApart documents) :
    TextsAgree documents (Mode.client.list sent) (Mode.server.list sent) where
  found := by
    intro name digest hf
    obtain ⟨op, text, hlast, htext, rfl⟩ := exists_lastOperation h hf
    have hop := List.mem_reverse.mp (List.mem_of_find?_eq_some hlast)
    exact ⟨op, text, hlast, htext, find?_digestText h hd hop htext⟩
  texts := by
    intro text
    constructor
    · intro ht
      obtain ⟨digest, hf⟩ := Table.mem_values_iff.mp ht
      obtain ⟨_, name, hs⟩ := find?_serverList hf
      obtain ⟨op, hop, _, htext⟩ := exists_operation h hs
      exact ⟨op, hop, htext⟩
    · rintro ⟨op, hop, htext⟩
      exact Table.mem_values_iff.mpr ⟨_, find?_digestText h hd hop htext⟩

end Identified

/-- For the same documents either no list can be made for the client and none for the server, and for
the same reason, or both can. Then the server's keys are the digests of its texts and of the operations,
each of which it knows, and it knows whatever the client has for a name. If moreover a digest stands for
one text only, it finds by what the client has for a name the text of the last operation of that name,
and its texts are those of all operations. -/
theorem lists_agree {client server : ModeChoice} (hclient : client.resolve = .ok .client)
    (hserver : server.resolve = .ok .server) (documents : List Document) :
    (∃ failure, (queryIds client documents).result = .error failure ∧
      (queryIds server documents).result = .error failure) ∨
    ∃ names texts, (queryIds client documents).result = .ok names ∧
      (queryIds server documents).result = .ok texts ∧ ListsAgree documents names texts ∧
      (TextsApart documents → TextsAgree documents names texts) := by
  rw [result_queryIds_eq, result_queryIds_eq, hclient, hserver]
  cases h : identifyAll documents with
  | error failure => exact .inl ⟨failure, rfl, rfl⟩
  | ok sent =>
    exact .inr ⟨_, _, rfl, rfl, listsAgree_list h, textsAgree_list h⟩

section Repetition

/-- A query and then another of its name, and the first once more. -/
def renewedQuery (field : String) : Operation :=
  { name := some "Q", selections := some [.field none field [] [] none] }

def renewed : List Document :=
  [⟨[.operation (renewedQuery "a"), .operation (renewedQuery "b")]⟩,
    ⟨[.operation (renewedQuery "a")]⟩]

theorem sentText_renewedQuery :
    sentText renewed (renewedQuery "a") = .ok "query Q \x7b\n  a\n\x7d" ∧
      sentText renewed (renewedQuery "b") = .ok "query Q \x7b\n  b\n\x7d" := ⟨rfl, rfl⟩

theorem textsApart_renewed : TextsApart renewed := by
  have hdigests : digestText "query Q \x7b\n  a\n\x7d" ≠ digestText "query Q \x7b\n  b\n\x7d" := by
    decide +kernel
  have hcases : ∀ op ∈ renewed.flatMap Document.operations, ∀ text, sentText renewed op = .ok text →
      text = "query Q \x7b\n  a\n\x7d" ∨ text = "query Q \x7b\n  b\n\x7d" := by
    intro op hop text htext
    have hop' : op ∈ [renewedQuery "a", renewedQuery "b", renewedQuery "a"] := hop
    simp only [List.mem_cons, List.not_mem_nil, or_false] at hop'
    rcases hop' with rfl | rfl | rfl
    · exact .inl (Except.ok.inj (htext.symm.trans sentText_renewedQuery.1))
    · exact .inr (Except.ok.inj (htext.symm.trans sentText_renewedQuery.2))
    · exact .inl (Except.ok.inj (htext.symm.trans sentText_renewedQuery.1))
  intro op hop other hother text text' htext htext' he
  rcases hcases op hop text htext with rfl | rfl <;>
    rcases hcases other hother text' htext' with rfl | rfl
  · rfl
  · exact absurd he hdigests
  · exact absurd he.symm hdigests
  · rfl

theorem lists_agree_renewed :
    (ModeChoice.ready .client).resolve = .ok .client ∧
    (ModeChoice.setting (.text "server")).resolve = .ok .server ∧ TextsApart renewed ∧
    ∃ names texts, (queryIds (.ready .client) renewed).result = .ok names ∧
      (queryIds (.setting (.text "server")) renewed).result = .ok texts ∧
      ListsAgree renewed names texts ∧ TextsAgree renewed names texts := by
  have hserver : (ModeChoice.setting (.text "server")).resolve = .ok .server := rfl
  have hclient : (ModeChoice.ready .client).resolve = .ok .client := rfl
  refine ⟨hclient, hserver, textsApart_renewed, ?_⟩
  rcases lists_agree hclient hserver renewed with
    ⟨failure, hf, _⟩ | ⟨names, texts, hnames, htexts, hlists, htextsAgree⟩
  · obtain ⟨sent, hs⟩ : ∃ sent, identifyAll renewed = .ok sent := ⟨_, rfl⟩
    rw [result_queryIds_eq, hs] at hf
    exact absurd hf (by simp [ModeChoice.resolve, Except.mapError, Except.map, Except.bind])
  · exact ⟨names, texts, hnames, htexts, hlists, htextsAgree textsApart_renewed⟩

end Repetition

end QueryRegistry
