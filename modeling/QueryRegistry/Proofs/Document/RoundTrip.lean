import QueryRegistry.Proofs.Document.Parsed
import QueryRegistry.Proofs.Document.Printing
import QueryRegistry.Proofs.Document.Reading.Definition
import QueryRegistry.Proofs.Typename.Readable
import QueryRegistry.Proofs.Typename.Spreads
import QueryRegistry.Registration

/-! Writing definitions and reading them back. What has been read from some text, asked for its type
names or not, is syntax that can be read; its text spells its tokens; and from these tokens the same
definitions are read again. So the text that is sent for definitions says which definitions they are. -/

namespace QueryRegistry

/-- The definition is one of a document that was read from some text, as it stands there or asked for
its type names. -/
def Executable.IsRead (definition : Executable) : Prop :=
  ∃ text document, Document.parse text = .ok document ∧
    (.executable definition ∈ document.definitions ∨
      .executable definition ∈ document.normalized.definitions)

theorem Executable.IsRead.readable {definition : Executable} (h : definition.IsRead) :
    definition.Readable := by
  obtain ⟨text, document, hparse, hm⟩ := h
  have hall := (Document.readable_of_parse hparse).2
  rcases hm with hm | hm
  · exact hall _ hm
  · rw [Document.definitions_normalized] at hm
    obtain ⟨original, ho, he⟩ := List.mem_map.mp hm
    have horiginal := hall original ho
    cases original with
    | typeSystem kind => simp [Definition.withTypename, Revised.same] at he
    | executable e =>
      obtain rfl := Definition.executable.inj he
      exact Executable.Readable.withTypename horiginal

theorem parse_of_readable {text : String} {definitions : List Executable}
    (h : ∀ e ∈ definitions, e.Readable) (hne : definitions ≠ [])
    (htokens : (lexemes text.toList).map Lexeme.token = definitions.flatMap Executable.tokens) :
    Document.parse text = .ok ⟨definitions.map .executable⟩ := by
  rw [Document.parse_eq_ok_iff, htokens]
  exact Parser.run_ok h hne (spells_printAll h).ne_unreadable

theorem parse_printAll_of_readable {definitions : List Executable}
    (h : ∀ e ∈ definitions, e.Readable) (hne : definitions ≠ []) :
    Document.parse (Executable.printAll definitions) = .ok ⟨definitions.map .executable⟩ :=
  parse_of_readable h hne (spells_printAll h).lexemes_eq

theorem map_executable_executables {document : Document}
    (h : ∀ d ∈ document.definitions, d.executable?.isSome) :
    document.executables.map Definition.executable = document.definitions := by
  rw [Document.executables]
  generalize document.definitions = definitions at h
  induction definitions with
  | nil => rfl
  | cons d ds ih =>
    have hds := ih fun x hx => h x (List.mem_cons_of_mem _ hx)
    cases d with
    | executable e => exact congrArg (_ :: ·) hds
    | typeSystem kind => simpa [Definition.executable?] using h _ List.mem_cons_self

/-- Definitions that were read from texts and are not none at all are read again from their own text,
as they are and in their order. So definitions with the same text are the same; and a document that
holds nothing else has the same list of queries, or fails to have one in the same way, as the document
read from the text of its definitions. -/
theorem parse_printAll :
    (∀ definitions : List Executable, definitions ≠ [] → (∀ e ∈ definitions, e.IsRead) →
      Document.parse (Executable.printAll definitions) = .ok ⟨definitions.map .executable⟩) ∧
    (∀ definitions others : List Executable, definitions ≠ [] → others ≠ [] →
      (∀ e ∈ definitions, e.IsRead) → (∀ e ∈ others, e.IsRead) →
      Executable.printAll definitions = Executable.printAll others → definitions = others) ∧
    (∀ (text : String) (document : Document) (choice : ModeChoice),
      Document.parse text = .ok document →
      (∀ d ∈ document.definitions, d.executable?.isSome) →
      ∃ again, Document.parse (Executable.printAll document.executables) = .ok again ∧
        queryIds choice [again] = queryIds choice [document]) := by
  have hparse : ∀ definitions : List Executable, definitions ≠ [] →
      (∀ e ∈ definitions, e.IsRead) →
      Document.parse (Executable.printAll definitions) = .ok ⟨definitions.map .executable⟩ :=
    fun definitions hne h => parse_printAll_of_readable (fun e he => (h e he).readable) hne
  refine ⟨hparse, fun definitions others hne hne' h h' htext => ?_,
    fun text document choice hread hall => ?_⟩
  · have hsame := hparse definitions hne h
    rw [htext, hparse others hne' h'] at hsame
    have hlists := Document.mk.inj (Except.ok.inj hsame)
    exact (List.map_injective_iff.mpr (fun _ _ he => Definition.executable.inj he) hlists).symm
  · have hdefinitions := map_executable_executables hall
    have hreadable := Document.readable_of_parse hread
    have hne : document.executables ≠ [] := by
      intro he
      rw [he] at hdefinitions
      exact hreadable.1 hdefinitions.symm
    refine ⟨document, ?_, rfl⟩
    have hexecutables : ∀ e ∈ document.executables, e.Readable := by
      intro e he
      refine hreadable.2 (.executable e) ?_
      rw [← hdefinitions]
      exact List.mem_map_of_mem he
    rw [parse_printAll_of_readable hexecutables hne, hdefinitions]

section Note

/-- A query with a block whose lines stand further in than their text, and a fragment. -/
def noteText : String :=
  "query N, \x7b note(t: \"\"\"\n   one\n     two\"\"\") \x7b ...P \x7d \x7d fragment P on T \x7b id \x7d"

def noteQuery : Operation :=
  { name := some "N"
    selections := some [.field none "note" [("t", .quoted ⟨"one\n  two", true⟩)] []
      (some [.spread "P" []])] }

def notePart : Fragment :=
  { name := "P", condition := "T", selections := some [.field none "id" [] [] none] }

def noteDocument : Document := ⟨[.operation noteQuery, .fragment notePart]⟩

theorem readable_noteQuery : noteQuery.Readable := by
  have hquoted : (Token.quoted ⟨"one\n  two", true⟩).Sound := by
    intro hblock
    have htext : blockText "\none\n  two".toList = "one\n  two".toList := by decide
    exact htext ▸ isBlockText_blockText _
  have hargument : ArgumentReadable false 199 ("t", .quoted ⟨"one\n  two", true⟩) :=
    ⟨by decide, .quoted hquoted⟩
  have hspread : Selection.Readable 198 (.spread "P" []) := .spread (by decide) (by decide) nofun
  refine ⟨nofun, ?_, nofun, nofun, _, rfl, List.cons_ne_nil _ _, _, rfl, ?_⟩
  · rintro name ⟨⟩
    decide
  · exact List.forall_mem_singleton.mpr (.field nofun (by decide)
      (List.forall_mem_singleton.mpr hargument) nofun (List.cons_ne_nil _ _)
      (List.forall_mem_singleton.mpr hspread))

theorem readable_notePart : notePart.Readable :=
  ⟨nofun, by decide, by decide, rfl, by decide, nofun, _, rfl, List.cons_ne_nil _ _, _, rfl,
    List.forall_mem_singleton.mpr (.leaf nofun (by decide) nofun nofun)⟩

theorem parse_noteText : Document.parse noteText = .ok noteDocument := by
  have hreadable : ∀ e ∈ noteDocument.executables, e.Readable :=
    List.forall_mem_cons.mpr ⟨readable_noteQuery, List.forall_mem_singleton.mpr readable_notePart⟩
  exact parse_of_readable hreadable (List.cons_ne_nil _ _) (by decide +kernel)

theorem isRead_noteDocument : ∀ e ∈ noteDocument.executables, e.IsRead := by
  intro e he
  refine ⟨noteText, noteDocument, parse_noteText, .inl ?_⟩
  simpa [noteDocument, Document.executables, Definition.executable?] using he

/-- The other order has another text. -/
theorem parse_printAll_note :
    (noteDocument.executables ≠ [] ∧ (∀ e ∈ noteDocument.executables, e.IsRead) ∧
      Document.parse (Executable.printAll noteDocument.executables) =
        .ok ⟨noteDocument.executables.map .executable⟩) ∧
    Executable.printAll noteDocument.executables ≠
      Executable.printAll noteDocument.executables.reverse ∧
    ∃ again, Document.parse (Executable.printAll noteDocument.executables) = .ok again ∧
      queryIds (.ready .server) [again] = queryIds (.ready .server) [noteDocument] := by
  have hne : noteDocument.executables ≠ [] := List.cons_ne_nil _ _
  have hall : ∀ d ∈ noteDocument.definitions, d.executable?.isSome := by decide
  have hread := isRead_noteDocument
  refine ⟨⟨hne, hread, parse_printAll.1 _ hne hread⟩, fun htext => ?_,
    parse_printAll.2.2 noteText noteDocument (.ready .server) parse_noteText hall⟩
  have hturned : ∀ e ∈ noteDocument.executables.reverse, e.IsRead :=
    fun e he => hread e (List.mem_reverse.mp he)
  have hsame := parse_printAll.2.1 _ _ hne (List.reverse_ne_nil_iff.mpr hne) hread hturned htext
  simp [noteDocument, Document.executables, Definition.executable?] at hsame

end Note

end QueryRegistry
