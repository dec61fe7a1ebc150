import QueryRegistry.Proofs.Document.Reading.Selection

/-! Operations and fragments are read from their tokens, and a row of them makes a document. -/

namespace QueryRegistry

namespace Parser

theorem operationKind?_word (kind : OperationKind) : operationKind? kind.word = some kind := by
  cases kind <;> rfl

theorem operationKind_ok {kind : OperationKind} {rest : List Token} (hclean : Clean rest) :
    operationKind (.name kind.word :: rest) = .ok (kind, rest) := by
  rw [operationKind, bind_ok (place_apply _), bind_ok (expectName_of_head hclean),
    operationKind?_word]
  rfl

theorem optionalName_ok {name : Option String} {rest : List Token}
    (hrest : ∀ n, rest.head? ≠ some (.name n))
    (hclean : Clean ((name.map Token.name).toList ++ rest)) :
    optionalName ((name.map Token.name).toList ++ rest) = .ok (name, rest) := by
  cases name with
  | some name => exact map_ok (expectName_of_head hclean.of_cons)
  | none =>
    rw [Option.map_none, Option.toList_none, List.nil_append, optionalName,
      bind_ok (peek_apply _)]
    cases rest with
    | nil => rfl
    | cons token rest =>
      cases token with
      | name n => exact absurd rfl (hrest n)
      | _ => rfl

theorem operation_ok {op : Operation} (h : op.Readable) {rest : List Token}
    (hclean : Clean (op.headingTokens ++ (Selection.tokensOfSet op.selections ++ rest))) :
    operation (op.headingTokens ++ (Selection.tokensOfSet op.selections ++ rest)) =
      .ok (op, rest) := by
  obtain ⟨list, hs, hne⟩ := h.selections
  have hset := selectionSet_ok ⟨list, rfl, hne⟩
  simp only [Operation.headingTokens, List.append_assoc, List.cons_append, hs] at hclean ⊢
  have hkind := hclean.of_append
  have hparameters := hkind.of_cons.of_append
  have hdirectives := hparameters.of_append
  have hhead : ∀ token : Token, token ≠ .punctuator .atSign → token ≠ .punctuator .braceOpen →
      (directivesTokens op.directives ++ (Selection.tokensOfSet (some list) ++ rest)).head? ≠
        some token := fun token hat ho =>
    head?_directivesTokens hat (by simpa [Selection.tokensOfSet] using ho.symm)
  rw [operation_eq, bind_ok (description_ok (by simp) hclean), bind_ok (operationKind_ok hkind.of_cons),
    bind_ok (optionalName_ok ?_ hkind.of_cons), bind_ok (parameters_ok h.parameters ?_ hparameters),
    bind_ok (directives_ok h.directives (endsDirectives_set _ _) hdirectives),
    bind_ok (hset rest hdirectives.of_append)]
  · rw [pure_apply, ← hs]
  · exact hhead _ (by simp) (by simp)
  · intro n
    cases hp : op.parameters with
    | nil => exact hhead _ (by simp) (by simp)
    | cons d ds => simp [parametersTokens, enclosed]

theorem shorthand_ok {selections : List Selection} (h : SetReadable (some selections))
    {rest : List Token} (hclean : Clean (Selection.tokensOfSet (some selections) ++ rest)) :
    shorthand (Selection.tokensOfSet (some selections) ++ rest) =
      .ok ({ kind := .query, selections := some selections }, rest) := by
  rw [shorthand, bind_ok (selectionSet_ok h rest hclean)]
  rfl

theorem fragment_ok {f : Fragment} (h : f.Readable) {rest : List Token}
    (hclean : Clean (f.tokens ++ rest)) : fragment (f.tokens ++ rest) = .ok (f, rest) := by
  obtain ⟨list, hs, hne⟩ := h.selections
  have hset := selectionSet_ok ⟨list, rfl, hne⟩
  simp only [Fragment.tokens, List.append_assoc, List.cons_append, hs] at hclean ⊢
  have hword := hclean.of_append
  have hdirectives := hword.of_cons.of_cons.of_cons.of_cons
  rw [fragment, bind_ok (description_ok (by simp) hclean),
    bind_ok (expectKeyword_of_head hword.of_cons),
    bind_ok (fragmentName_ok h.notOn hword.of_cons.of_cons),
    bind_ok (expectKeyword_of_head hword.of_cons.of_cons.of_cons),
    bind_ok (expectName_of_head hdirectives),
    bind_ok (directives_ok h.directives (endsDirectives_set _ _) hdirectives),
    bind_ok (hset rest hdirectives.of_append)]
  rw [pure_apply, ← hs, ← h.parameters]

/-- A word introduces its definition with or without a description in front. -/
theorem definition_of_word {word : String} {body : Parser Definition}
    (h : definition? word = some body) {d : Option Quotation} {rest : List Token}
    (hclean : Clean (describedBy d ++ .name word :: rest)) :
    definition (describedBy d ++ .name word :: rest) =
      body (describedBy d ++ .name word :: rest) := by
  cases d with
  | none =>
    rw [describedBy, Option.map_none, Option.toList_none, List.nil_append, definition,
      bind_ok (peek_apply _), List.head?_cons]
    dsimp only
    rw [h]
  | some quotation =>
    have hrest : Clean (.name word :: rest) := hclean.of_append
    have hahead : lookAhead (.quoted quotation :: .name word :: rest) =
        .ok (some (.name word), .quoted quotation :: .name word :: rest) := by
      rw [lookAhead, List.tail_cons, settle_clean hrest]
      rfl
    rw [describedBy, Option.map_some, Option.toList_some, List.singleton_append, definition,
      bind_ok (peek_apply _), List.head?_cons]
    dsimp only
    rw [described, bind_ok (place_apply _), bind_ok hahead]
    dsimp only
    rw [h]

theorem definition?_kind (kind : OperationKind) :
    definition? kind.word = some (.operation <$> operation) := by
  cases kind <;> rfl

theorem definition?_fragment : definition? "fragment" = some (.fragment <$> fragment) := rfl

theorem definition_ok {e : Executable} (h : e.Readable) {rest : List Token}
    (hclean : Clean (e.tokens ++ rest)) :
    definition (e.tokens ++ rest) = .ok (.executable e, rest) := by
  cases e with
  | fragment f =>
    rw [Executable.tokens] at hclean ⊢
    have hread := map_ok (f := Definition.fragment) (fragment_ok h hclean)
    rw [Fragment.tokens, List.append_assoc] at hclean hread ⊢
    exact (definition_of_word definition?_fragment hclean).trans hread
  | operation op =>
    rw [Executable.tokens, Operation.tokens] at hclean ⊢
    split at hclean
    next hheading =>
      obtain ⟨list, hs, hne⟩ := Operation.Readable.selections h
      have hop := Operation.eq_of_headingTokens hheading
      rw [if_pos hheading, hs]
      rw [hs] at hclean hop
      have hread := map_ok (f := Definition.operation) (shorthand_ok ⟨list, rfl, hne⟩ hclean)
      rw [← hop] at hread
      rw [definition, bind_ok (peek_apply _)]
      exact hread
    next hheading =>
      rw [if_neg hheading, List.append_assoc] at *
      have hread := map_ok (f := Definition.operation) (operation_ok h hclean)
      rw [Operation.headingTokens, List.append_assoc] at hclean hread ⊢
      exact (definition_of_word (definition?_kind _) hclean).trans hread

theorem definitionsUpTo_ok {es : List Executable} (h : ∀ e ∈ es, e.Readable) (hne : es ≠ [])
    {bound : Nat} (hbound : es.length ≤ bound) (hclean : Clean (es.flatMap Executable.tokens)) :
    definitionsUpTo bound (es.flatMap Executable.tokens) =
      .ok (es.map Definition.executable, []) := by
  induction es generalizing bound with
  | nil => exact absurd rfl hne
  | cons e es ih =>
    cases bound with
    | zero => simp at hbound
    | succ bound =>
      rw [List.flatMap_cons] at hclean ⊢
      rw [definitionsUpTo, bind_ok (definition_ok (h e List.mem_cons_self) hclean),
        bind_ok (peek_apply _)]
      cases es with
      | nil => rfl
      | cons e' es =>
        have hlater := ih (fun x hx => h x (List.mem_cons_of_mem _ hx)) (List.cons_ne_nil _ _)
          (Nat.le_of_succ_le_succ hbound) hclean.of_append
        obtain ⟨token, tail, he⟩ := List.exists_cons_of_ne_nil (h e' (by simp)).tokens_ne_nil
        have hhead : ((e' :: es).flatMap Executable.tokens).head? = some token := by
          rw [List.flatMap_cons, he]
          rfl
        rw [hhead, Option.isNone_some, if_neg Bool.false_ne_true, bind_ok hlater]
        rfl

/-- Definitions are read from their tokens in a row. -/
theorem run_ok {es : List Executable} (h : ∀ e ∈ es, e.Readable) (hne : es ≠ [])
    (hclean : Clean (es.flatMap Executable.tokens)) :
    run (es.flatMap Executable.tokens) = .ok ⟨es.map Definition.executable⟩ := by
  have hbound := length_le_flatMap fun e he => (h e he).tokens_ne_nil
  have hread := definitionsUpTo_ok h hne (Nat.le_succ_of_le hbound) hclean
  have hdocument : document (es.flatMap Executable.tokens) =
      .ok (⟨es.map Definition.executable⟩, []) := by
    rw [document, bind_ok (place_apply _), bind_ok hread]
    rfl
  rw [run, settle_clean hclean]
  change (document _ >>= fun x => pure x.1) = _
  rw [hdocument]
  rfl

end Parser

end QueryRegistry
