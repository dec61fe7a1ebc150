import QueryRegistry.Proofs.Document.Reading.Basic

/-! Values, directives, types and variables are read from their tokens. A value ends with its last token
whatever follows; the others end where no token follows that could make them longer. -/

namespace QueryRegistry

namespace Parser

/-! ### Values -/

theorem argument_ok {constant : Bool} {levels : Nat} {x : String × Value} {rest : List Token}
    (hv : value constant levels (x.2.tokens ++ rest) = .ok (x.2, rest))
    (hclean : Clean (argumentTokens x ++ rest)) :
    argument constant levels (argumentTokens x ++ rest) = .ok (x, rest) := by
  rw [argumentTokens, List.cons_append, List.cons_append] at hclean ⊢
  rw [argument, bind_ok (expectName_of_head hclean.of_cons),
    bind_ok (expectPunctuator_of_head hclean.of_cons.of_cons), bind_ok hv]
  rfl

theorem startsItems_arguments {close : Punctuator} {Follows : Token → Prop}
    (h : ∀ token, Follows token) (arguments : Arguments) :
    StartsItems close argumentTokens Follows arguments :=
  fun _ _ => ⟨_, _, rfl, h _, by simp⟩

theorem startsItems_values {Follows : Token → Prop} (h : ∀ token, Follows token)
    (items : List Value) : StartsItems .bracketClose Value.tokens Follows items := by
  intro item _
  cases item with
  | boolean value => cases value <;> exact ⟨_, _, rfl, h _, by simp⟩
  | _ => exact ⟨_, _, rfl, h _, by simp⟩

theorem variableValue_ok {name : String} {rest : List Token}
    (h : Clean (.name name :: rest)) :
    variableValue false (.punctuator .dollar :: .name name :: rest) =
      .ok (.variable name, rest) := by
  rw [variableValue, bind_ok (place_apply _), bind_ok (expectPunctuator_of_head h),
    if_neg Bool.false_ne_true, bind_ok (expectName_of_head h.of_cons)]
  rfl

theorem advance_pure {α : Type} {token : Token} {rest : List Token} (h : Clean (token :: rest)) (a : α) :
    (advance >>= fun _ => pure a) (token :: rest) = .ok (a, rest) := by
  rw [bind_ok (advance_clean h.of_cons)]
  rfl

theorem value_ok {constant : Bool} {levels : Nat} {v : Value} (h : v.Readable constant levels)
    {rest : List Token} (hclean : Clean (v.tokens ++ rest)) :
    value constant levels (v.tokens ++ rest) = .ok (v, rest) := by
  induction h generalizing rest with
  | variableName hn hc =>
    subst hc
    rw [value.eq_def, bind_ok (peek_apply _)]
    exact variableValue_ok hclean.of_cons
  | int h =>
    rw [value.eq_def, bind_ok (peek_apply _)]
    exact advance_pure hclean _
  | float h =>
    rw [value.eq_def, bind_ok (peek_apply _)]
    exact advance_pure hclean _
  | quoted h =>
    rw [value.eq_def, bind_ok (peek_apply _)]
    exact advance_pure hclean _
  | boolean b =>
    rw [value.eq_def, bind_ok (peek_apply _)]
    cases b <;> exact advance_pure hclean _
  | null =>
    rw [value.eq_def, bind_ok (peek_apply _)]
    exact advance_pure hclean _
  | @enum levels name hn he =>
    rw [value.eq_def, bind_ok (peek_apply _)]
    refine (advance_pure hclean (namedValue name)).trans ?_
    rw [he]
    rfl
  | @list inner items _ ih =>
    rw [Value.tokens, Value.tokensOfItems_eq, List.cons_append, List.append_assoc] at hclean ⊢
    have hitems : ReadsItems (value constant inner) Value.tokens (fun _ => True) items :=
      fun item hi _ _ _ hc => ih item hi hc
    have hany := any_ok .bracketOpen hitems
      (startsItems_values (fun _ => trivial) items) trivial hclean.of_cons
    rw [value.eq_def, bind_ok (peek_apply _)]
    exact (bind_ok hany).trans rfl
  | @object inner fields hn _ ih =>
    rw [Value.tokens, Value.tokensOfFields_eq, List.cons_append, List.append_assoc] at hclean ⊢
    have hfields : ReadsItems (argument constant inner) argumentTokens (fun _ => True) fields :=
      fun field hf _ _ _ hc => argument_ok (ih field hf hc.of_cons.of_cons) hc
    have hany := any_ok .braceOpen hfields
      (startsItems_arguments (fun _ => trivial) fields) trivial hclean.of_cons
    rw [value.eq_def, bind_ok (peek_apply _)]
    exact (bind_ok hany).trans rfl

/-! ### Arguments and directives -/

theorem arguments_ok {constant : Bool} {levels : Nat} {args : Arguments}
    (h : ∀ x ∈ args, ArgumentReadable constant levels x) {rest : List Token}
    (hrest : rest.head? ≠ some (.punctuator .parenthesisOpen))
    (hclean : Clean (argumentsTokens args ++ rest)) :
    arguments constant levels (argumentsTokens args ++ rest) = .ok (args, rest) := by
  have hitems : ReadsItems (argument constant levels) argumentTokens (fun _ => True) args :=
    fun x hx _ _ _ hc => argument_ok (value_ok (h x hx).value hc.of_cons.of_cons) hc
  exact optionalMany_ok _ hitems (startsItems_arguments (fun _ => trivial) args) trivial
    (fun _ => hrest) hclean

theorem directive_ok {constant : Bool} {levels : Nat} {d : Directive}
    (h : d.Readable constant levels) {rest : List Token}
    (hrest : rest.head? ≠ some (.punctuator .parenthesisOpen)) (hclean : Clean (d.tokens ++ rest)) :
    directive constant levels (d.tokens ++ rest) = .ok (d, rest) := by
  rw [Directive.tokens, List.cons_append, List.cons_append] at hclean ⊢
  rw [directive, bind_ok (expectPunctuator_of_head hclean.of_cons),
    bind_ok (expectName_of_head hclean.of_cons.of_cons),
    bind_ok (arguments_ok h.arguments hrest hclean.of_cons.of_cons)]
  rfl

def EndsDirectives (tokens : List Token) : Prop :=
  tokens.head? ≠ some (.punctuator .parenthesisOpen) ∧ tokens.head? ≠ some (.punctuator .atSign)

theorem directivesUpTo_ok {constant : Bool} {levels bound : Nat} {ds : List Directive}
    (h : ∀ d ∈ ds, d.Readable constant levels) (hbound : ds.length ≤ bound) {rest : List Token}
    (hrest : EndsDirectives rest) (hclean : Clean (directivesTokens ds ++ rest)) :
    directivesUpTo constant levels bound (directivesTokens ds ++ rest) = .ok (ds, rest) := by
  induction ds generalizing bound with
  | nil =>
    rw [directivesTokens, List.flatMap_nil, List.nil_append]
    cases bound with
    | zero => rfl
    | succ bound =>
      rw [directivesUpTo, bind_ok (atPunctuator_apply _ _), if_neg (by simpa using hrest.2)]
      rfl
  | cons d ds ih =>
    cases bound with
    | zero => simp at hbound
    | succ bound =>
      rw [directivesTokens, List.flatMap_cons, List.append_assoc] at hclean ⊢
      have hnext : (directivesTokens ds ++ rest).head? ≠ some (.punctuator .parenthesisOpen) := by
        cases ds with
        | nil => exact hrest.1
        | cons d' ds => simp [directivesTokens, Directive.tokens]
      have hread := directive_ok (h d List.mem_cons_self) hnext hclean
      have hlater := ih (fun d' hd => h d' (List.mem_cons_of_mem _ hd))
        (Nat.le_of_succ_le_succ hbound) hclean.of_append
      rw [directivesUpTo, bind_ok (atPunctuator_apply _ _), if_pos (by simp [Directive.tokens])]
      exact (bind_ok hread).trans ((bind_ok hlater).trans rfl)

theorem directives_ok {constant : Bool} {levels : Nat} {ds : List Directive}
    (h : ∀ d ∈ ds, d.Readable constant levels) {rest : List Token}
    (hrest : EndsDirectives rest) (hclean : Clean (directivesTokens ds ++ rest)) :
    directives constant levels (directivesTokens ds ++ rest) = .ok (ds, rest) := by
  have hbound : ds.length ≤ (directivesTokens ds).length :=
    length_le_flatMap fun _ _ => List.cons_ne_nil _ _
  rw [directives, bind_ok (place_apply _)]
  refine directivesUpTo_ok h ?_ hrest hclean
  rw [List.length_append]
  omega

/-! ### Types and variables -/

theorem typeReference_of_bareType {levels : Nat} {t : TypeReference} {tokens rest : List Token}
    (h : bareType levels tokens = .ok (t, rest))
    (hrest : rest.head? ≠ some (.punctuator .bang)) :
    typeReference levels tokens = .ok (t, rest) := by
  rw [typeReference_eq, bind_ok h, markedType, bind_ok (skipPunctuator_of_ne hrest)]
  rfl

theorem bareType_named {levels : Nat} {name : String} {rest : List Token} (h : Clean rest) :
    bareType levels (.name name :: rest) = .ok (.named name, rest) := by
  rw [bareType.eq_def, bind_ok (skipPunctuator_of_ne (by simp)), if_neg Bool.false_ne_true]
  exact map_ok (expectName_of_head h)

theorem bareType_list {inner : Nat} {t : TypeReference} {tokens rest : List Token}
    (ht : typeReference inner tokens = .ok (t, .punctuator .bracketClose :: rest))
    (h : Clean tokens) (hrest : Clean rest) :
    bareType (inner + 1) (.punctuator .bracketOpen :: tokens) = .ok (.list t, rest) := by
  rw [bareType.eq_def, bind_ok (skipPunctuator_of_head h), if_pos rfl]
  dsimp only
  rw [bind_ok ht, bind_ok (expectPunctuator_of_head hrest)]
  rfl

/-- A type is read up to an exclamation mark, and with it if it does not end in one. -/
theorem typeReference_ok {levels : Nat} {t : TypeReference} (h : t.Readable levels) :
    ((∀ inner, t ≠ .nonNull inner) → ∀ rest, Clean (t.tokens ++ rest) →
      bareType levels (t.tokens ++ rest) = .ok (t, rest)) ∧
    ∀ rest, rest.head? ≠ some (.punctuator .bang) → Clean (t.tokens ++ rest) →
      typeReference levels (t.tokens ++ rest) = .ok (t, rest) := by
  induction h with
  | named hn =>
    refine ⟨fun _ rest hclean => bareType_named hclean.of_cons, fun rest hrest hclean => ?_⟩
    exact typeReference_of_bareType (bareType_named hclean.of_cons) hrest
  | @list inner item _ ih =>
    have hbare : ∀ rest, Clean (TypeReference.tokens (.list item) ++ rest) →
        bareType (inner + 1) (TypeReference.tokens (.list item) ++ rest) =
          .ok (.list item, rest) := by
      intro rest hclean
      rw [TypeReference.tokens, List.cons_append, List.append_assoc,
        List.singleton_append] at hclean ⊢
      exact bareType_list (ih.2 _ (by simp) hclean.of_cons) hclean.of_cons
        hclean.of_cons.of_append.of_cons
    exact ⟨fun _ => hbare, fun rest hrest hclean =>
      typeReference_of_bareType (hbare rest hclean) hrest⟩
  | nonNull _ hb ih =>
    refine ⟨fun hne => absurd rfl (hne _), fun rest _ hclean => ?_⟩
    rw [TypeReference.tokens, List.append_assoc, List.singleton_append] at hclean ⊢
    rw [typeReference_eq, bind_ok (ih.1 hb _ hclean), markedType,
      bind_ok (skipPunctuator_of_head hclean.of_append.of_cons)]
    rfl

theorem description_ok {d : Option Quotation} {rest : List Token}
    (hrest : ∀ quotation, rest.head? ≠ some (.quoted quotation))
    (hclean : Clean (describedBy d ++ rest)) :
    description (describedBy d ++ rest) = .ok (d, rest) := by
  cases d with
  | some quotation => exact advance_pure hclean _
  | none =>
    rw [describedBy, Option.map_none, Option.toList_none, List.nil_append,
      description, bind_ok (peek_apply _)]
    cases rest with
    | nil => rfl
    | cons token rest =>
      cases token with
      | quoted quotation => exact absurd rfl (hrest quotation)
      | _ => rfl

theorem constantDefault_ok {d : Option Value} (h : ∀ v ∈ d, v.Readable true maxLevels)
    {rest : List Token} (hrest : rest.head? ≠ some (.punctuator .equals))
    (hclean : Clean (defaultTokens d ++ rest)) :
    constantDefault (defaultTokens d ++ rest) = .ok (d, rest) := by
  cases d with
  | none =>
    rw [defaultTokens, List.nil_append, constantDefault, bind_ok (skipPunctuator_of_ne hrest)]
    rfl
  | some v =>
    rw [defaultTokens, List.cons_append] at hclean ⊢
    rw [constantDefault, bind_ok (skipPunctuator_of_head hclean.of_cons), if_pos rfl,
      bind_ok (value_ok (h v rfl) hclean.of_cons)]
    rfl

/-- What may stand behind a variable: a further one, perhaps described, or the end of the list. -/
abbrev FollowsVariable : Token → Prop := Only [.dollar, .parenthesisClose]

theorem head?_directivesTokens {ds : List Directive} {rest : List Token} {token : Token}
    (hat : token ≠ .punctuator .atSign) (hrest : rest.head? ≠ some token) :
    (directivesTokens ds ++ rest).head? ≠ some token := by
  cases ds with
  | nil => exact hrest
  | cons d ds => simpa [directivesTokens, Directive.tokens] using hat.symm

theorem head?_defaultTokens {d : Option Value} {rest : List Token} {token : Token}
    (he : token ≠ .punctuator .equals) (hrest : rest.head? ≠ some token) :
    (defaultTokens d ++ rest).head? ≠ some token := by
  cases d with
  | none => exact hrest
  | some v => simpa [defaultTokens] using he.symm

theorem variableDefinition_ok {d : VariableDefinition} (h : d.Readable) {token : Token}
    {rest : List Token} (ht : FollowsVariable token) (hclean : Clean (d.tokens ++ token :: rest)) :
    variableDefinition (d.tokens ++ token :: rest) = .ok (d, token :: rest) := by
  simp only [VariableDefinition.tokens, List.append_assoc, List.cons_append] at hclean ⊢
  have hdollar := hclean.of_append
  have htype := hdollar.of_cons.of_cons.of_cons
  have hdefault := htype.of_append
  have hdirectives := hdefault.of_append
  rw [variableDefinition, bind_ok (description_ok (by simp) hclean),
    bind_ok (expectPunctuator_of_head hdollar.of_cons),
    bind_ok (expectName_of_head hdollar.of_cons.of_cons),
    bind_ok (expectPunctuator_of_head htype),
    bind_ok ((typeReference_ok h.type).2 _ ?_ htype),
    bind_ok (constantDefault_ok h.default ?_ hdefault),
    bind_ok (directives_ok h.directives ?_ hdirectives)]
  · rfl
  · exact ⟨ht.head?_ne (by decide), ht.head?_ne (by decide)⟩
  · exact head?_directivesTokens (by simp) (ht.head?_ne (by decide))
  · exact head?_defaultTokens (by simp) (head?_directivesTokens (by simp) (ht.head?_ne (by decide)))

theorem parameters_ok {ds : List VariableDefinition} (h : ∀ d ∈ ds, d.Readable)
    {rest : List Token} (hrest : rest.head? ≠ some (.punctuator .parenthesisOpen))
    (hclean : Clean (parametersTokens ds ++ rest)) :
    optionalMany .parenthesisOpen .parenthesisClose variableDefinition
      (parametersTokens ds ++ rest) = .ok (ds, rest) := by
  have hitems : ReadsItems variableDefinition VariableDefinition.tokens FollowsVariable ds :=
    fun d hd _ _ ht hc => variableDefinition_ok (h d hd) ht hc
  have hstart : StartsItems .parenthesisClose VariableDefinition.tokens FollowsVariable ds := by
    intro d _
    cases hdescription : d.description with
    | none =>
      exact ⟨.punctuator .dollar, _, by rw [VariableDefinition.tokens, hdescription]; rfl,
        only_punctuator (by decide), by simp⟩
    | some quotation =>
      exact ⟨.quoted quotation, _, by rw [VariableDefinition.tokens, hdescription]; rfl,
        by simp [Only], by simp⟩
  exact optionalMany_ok _ hitems hstart (only_punctuator (by decide)) (fun _ => hrest) hclean

end Parser

end QueryRegistry
