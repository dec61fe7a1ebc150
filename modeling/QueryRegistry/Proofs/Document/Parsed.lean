import QueryRegistry.Proofs.Document.TypeSystem

/-! A document that was read is readable: all of its operations and fragments are syntax of the kind that
the readers take. Of the other definitions only their kind is kept, so nothing is asked of them. -/

namespace QueryRegistry

def Definition.Readable : Definition → Prop
  | .executable e => e.Readable
  | .typeSystem _ => True

namespace Parser

theorem yields_definition? {word : String} {body : Parser Definition}
    (h : definition? word = some body) : Yields body Definition.Readable := by
  rw [definition?] at h
  split at h
  next kind hkind =>
    obtain rfl := Option.some.inj h
    have hpasses := Passes.of_typeSystemDefinition? hkind
    refine yields_description.bind fun _ _ => ?_
    refine Yields.advance.bind fun _ _ => ?_
    exact hpasses.yields.bind fun _ _ => .pure trivial
  · split at h
    · obtain rfl := Option.some.inj h
      exact yields_operation.map fun _ hop => hop
    · split at h
      · obtain rfl := Option.some.inj h
        exact yields_fragment.map fun _ hf => hf
      · simp at h

theorem yields_described : Yields described Definition.Readable := by
  refine Yields.place.bind fun _ _ => Yields.lookAhead.bind fun found _ => ?_
  split
  · exact .fail
  · split
    next body hbody => exact yields_definition? hbody
    · exact .fail
  · exact .failAt

theorem yields_definition : Yields definition Definition.Readable := by
  refine Yields.peek.bind fun found _ => ?_
  split
  · exact yields_shorthand.map fun _ hop => hop
  · exact yields_described
  · split
    next body hbody => exact yields_definition? hbody
    · exact .ite (fun _ => yields_typeSystemExtension.map fun _ _ => trivial) fun _ => .unexpected
  · exact .unexpected

theorem yields_definitionsUpTo (bound : Nat) :
    Yields (definitionsUpTo bound) fun ds => ds ≠ [] ∧ ∀ d ∈ ds, d.Readable := by
  induction bound with
  | zero => exact .unexpected
  | succ bound ih =>
    refine yields_definition.bind fun first hfirst => Yields.peek.bind fun found _ =>
      .ite (fun _ => ?_) fun _ => ?_
    · exact .pure ⟨List.cons_ne_nil _ _, by simpa using hfirst⟩
    · refine ih.bind fun ds hds => ?_
      exact .pure ⟨List.cons_ne_nil _ _, List.forall_mem_cons.mpr ⟨hfirst, hds.2⟩⟩

theorem yields_document :
    Yields document fun d => d.definitions ≠ [] ∧ ∀ definition ∈ d.definitions, definition.Readable :=
  Yields.place.bind fun _ _ => (yields_definitionsUpTo _).bind fun _ hds => .pure hds

theorem document_of_run {tokens : List Token} {result : Document} (h : run tokens = .ok result) :
    ∃ rest, document tokens = .ok (result, rest) := by
  have hrun := eq_ok_of_settle h
  cases hd : document tokens with
  | error misfit =>
    rw [hd] at hrun
    simp [bind, Except.bind] at hrun
  | ok read =>
    rw [hd] at hrun
    obtain rfl := Except.ok.inj hrun
    exact ⟨read.2, rfl⟩

end Parser

namespace Document

theorem parse_eq_ok_iff {text : String} {document : Document} :
    parse text = .ok document ↔
      Parser.run ((lexemes text.toList).map Lexeme.token) = .ok document := by
  rw [parse]
  cases Parser.run ((lexemes text.toList).map Lexeme.token) with
  | ok result => simp
  | error misfit => simp

theorem readable_of_parse {text : String} {document : Document} (h : parse text = .ok document) :
    document.definitions ≠ [] ∧ ∀ d ∈ document.definitions, d.Readable := by
  have hsound : Parser.AllSound ((lexemes text.toList).map Lexeme.token) := by
    intro token ht
    obtain ⟨lexeme, hl, rfl⟩ := List.mem_map.mp ht
    exact sound_of_mem_lexemes _ lexeme hl
  obtain ⟨rest, hread⟩ := Parser.document_of_run (parse_eq_ok_iff.mp h)
  exact (Parser.yields_document _ _ _ hsound hread).1

end Document

end QueryRegistry
