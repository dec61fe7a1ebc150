import QueryRegistry.Proofs.Document.Reading.Value

/-! Selections are read from their tokens, each with the set inside it. The readers of its parts are
given the reader of the set, and what they need of it is that it reads the selections of this one. -/

namespace QueryRegistry

namespace Parser

/-- What may stand behind a selection: a further one or the end of the set. -/
abbrev FollowsSelection : Token → Prop := Only [.dots, .braceClose]

theorem startsItems_selections (selections : List Selection) :
    StartsItems .braceClose Selection.tokens FollowsSelection selections := by
  intro selection _
  cases selection with
  | field label name arguments directives selections =>
    cases label with
    | none => exact ⟨.name name, _, rfl, by simp [Only], by simp⟩
    | some label => exact ⟨.name label, _, rfl, by simp [Only], by simp⟩
  | spread name directives => exact ⟨_, _, rfl, only_punctuator (by decide), by simp⟩
  | inline condition directives selections =>
    exact ⟨_, _, rfl, only_punctuator (by decide), by simp⟩

def ReadsSet (set : Parser (List Selection)) (selections : List Selection) : Prop :=
  ∀ rest, Clean (Selection.tokensOfSet (some selections) ++ rest) →
    set (Selection.tokensOfSet (some selections) ++ rest) = .ok (selections, rest)

theorem readsSet_of_readsItems {levels : Nat} {selections : List Selection}
    (h : ReadsItems (selection (selectionSet levels) levels) Selection.tokens FollowsSelection
      selections) (hne : selections ≠ []) : ReadsSet (selectionSet (levels + 1)) selections := by
  intro rest hclean
  have he : Selection.tokensOfSet (some selections) ++ rest = .punctuator .braceOpen ::
      (selections.flatMap Selection.tokens ++ .punctuator .braceClose :: rest) := by
    simp [Selection.tokensOfSet, Selection.tokensOfList_eq]
  rw [he] at hclean ⊢
  exact many_ok _ h (startsItems_selections selections) (only_punctuator (by decide)) hne
    hclean.of_cons

section

variable {set : Parser (List Selection)} {levels : Nat} {ds : List Directive} {rest : List Token}

theorem labelledName_ok {label : Option String} {name : String}
    (hrest : rest.head? ≠ some (.punctuator .colon))
    (hclean : Clean (Selection.labelTokens label ++ .name name :: rest)) :
    (expectName >>= labelledName) (Selection.labelTokens label ++ .name name :: rest) =
      .ok ((label, name), rest) := by
  cases label with
  | none =>
    rw [Selection.labelTokens, List.nil_append] at hclean ⊢
    rw [bind_ok (expectName_of_head hclean.of_cons), labelledName,
      bind_ok (skipPunctuator_of_ne hrest)]
    rfl
  | some label =>
    rw [Selection.labelTokens, List.cons_append, List.singleton_append] at hclean ⊢
    rw [bind_ok (expectName_of_head hclean.of_cons), labelledName,
      bind_ok (skipPunctuator_of_head hclean.of_cons.of_cons), if_pos rfl,
      bind_ok (expectName_of_head hclean.of_cons.of_cons.of_cons)]
    rfl

theorem optionalSet_ok {selections : SelectionSet} (hs : ∀ list ∈ selections, ReadsSet set list)
    (hrest : rest.head? ≠ some (.punctuator .braceOpen))
    (hclean : Clean (Selection.tokensOfSet selections ++ rest)) :
    optionalSet set (Selection.tokensOfSet selections ++ rest) = .ok (selections, rest) := by
  cases selections with
  | none =>
    rw [Selection.tokensOfSet, List.nil_append, optionalSet, bind_ok (atPunctuator_apply _ _),
      if_neg (by simpa using hrest)]
    rfl
  | some list =>
    rw [optionalSet, bind_ok (atPunctuator_apply _ _), if_pos (by simp [Selection.tokensOfSet])]
    exact map_ok (hs list rfl rest hclean)

theorem head?_tokensOfSet {selections : SelectionSet} {token : Token}
    (ho : token ≠ .punctuator .braceOpen) (hrest : rest.head? ≠ some token) :
    (Selection.tokensOfSet selections ++ rest).head? ≠ some token := by
  cases selections with
  | none => exact hrest
  | some list => simpa [Selection.tokensOfSet] using ho.symm

theorem head?_argumentsTokens {args : Arguments} {token : Token}
    (ho : token ≠ .punctuator .parenthesisOpen) (hrest : rest.head? ≠ some token) :
    (argumentsTokens args ++ rest).head? ≠ some token := by
  cases args with
  | nil => exact hrest
  | cons x args => simpa [argumentsTokens, enclosed] using ho.symm

theorem fieldSelection_ok {label : Option String} {name : String} {args : Arguments}
    {selections : SelectionSet} (ha : ∀ x ∈ args, ArgumentReadable false levels x)
    (hd : ∀ d ∈ ds, d.Readable false levels) (hs : ∀ list ∈ selections, ReadsSet set list)
    {token : Token} (ht : FollowsSelection token)
    (hclean : Clean ((Selection.field label name args ds selections).tokens ++ token :: rest)) :
    fieldSelection set levels
        ((Selection.field label name args ds selections).tokens ++ token :: rest) =
      .ok (.field label name args ds selections, token :: rest) := by
  have hset : ∀ p : Punctuator, p ∉ [Punctuator.dots, .braceClose] → p ≠ .braceOpen →
      (Selection.tokensOfSet selections ++ token :: rest).head? ≠ some (.punctuator p) := by
    intro p hp ho
    exact head?_tokensOfSet (by simpa using ho) (ht.head?_ne hp)
  simp only [Selection.tokens, List.append_assoc, List.cons_append] at hclean ⊢
  have harguments := hclean.of_append.of_cons
  have hdirectives := harguments.of_append
  rw [fieldSelection, ← bind_assoc, bind_ok (labelledName_ok ?_ hclean),
    bind_ok (arguments_ok ha ?_ harguments), bind_ok (directives_ok hd ?_ hdirectives),
    bind_ok (optionalSet_ok hs ?_ hdirectives.of_append)]
  · rfl
  · exact ht.head?_ne (by decide)
  · exact ⟨hset _ (by decide) (by decide), hset _ (by decide) (by decide)⟩
  · exact head?_directivesTokens (by simp) (hset _ (by decide) (by decide))
  · exact head?_argumentsTokens (by simp)
      (head?_directivesTokens (by simp) (hset _ (by decide) (by decide)))

theorem fragmentName_ok {name : String} (h : name ≠ "on") (hclean : Clean rest) :
    fragmentName (.name name :: rest) = .ok (name, rest) := by
  rw [fragmentName, bind_ok (peek_apply _), if_neg (by simpa [Token.words?] using h)]
  exact expectName_of_head hclean

theorem endsDirectives_set (selections : List Selection) (rest : List Token) :
    EndsDirectives (Selection.tokensOfSet (some selections) ++ rest) := by
  simp [EndsDirectives, Selection.tokensOfSet]

theorem inlineSelection_ok {selections : List Selection} (condition : Option String)
    (hd : ∀ d ∈ ds, d.Readable false levels) (hs : ReadsSet set selections)
    (hclean : Clean (directivesTokens ds ++ (Selection.tokensOfSet (some selections) ++ rest))) :
    inlineSelection set levels condition
        (directivesTokens ds ++ (Selection.tokensOfSet (some selections) ++ rest)) =
      .ok (.inline condition ds (some selections), rest) := by
  rw [inlineSelection, bind_ok (directives_ok hd (endsDirectives_set _ _) hclean),
    bind_ok (hs rest hclean.of_append)]
  rfl

theorem dottedSelection_inline {condition : Option String} {selections : List Selection}
    (hd : ∀ d ∈ ds, d.Readable false levels) (hs : ReadsSet set selections)
    (hclean : Clean (Selection.conditionTokens condition ++
      (directivesTokens ds ++ (Selection.tokensOfSet (some selections) ++ rest)))) :
    dottedSelection set levels (Selection.conditionTokens condition ++
        (directivesTokens ds ++ (Selection.tokensOfSet (some selections) ++ rest))) =
      .ok (.inline condition ds (some selections), rest) := by
  cases condition with
  | some condition =>
    rw [Selection.conditionTokens, List.cons_append, List.singleton_append] at hclean ⊢
    rw [dottedSelection, bind_ok (skipKeyword_of_head hclean.of_cons), if_pos rfl,
      bind_ok (expectName_of_head hclean.of_cons.of_cons)]
    exact inlineSelection_ok _ hd hs hclean.of_cons.of_cons
  | none =>
    rw [Selection.conditionTokens, List.nil_append] at hclean ⊢
    have hread := inlineSelection_ok none hd hs hclean
    have hon : (directivesTokens ds ++ (Selection.tokensOfSet (some selections) ++ rest)).head? ≠
        some (.name "on") :=
      head?_directivesTokens (by simp) (by simp [Selection.tokensOfSet])
    rw [dottedSelection, bind_ok (skipKeyword_of_ne hon), if_neg Bool.false_ne_true,
      bind_ok (peek_apply _)]
    cases ds with
    | nil => exact hread
    | cons d ds => exact hread

theorem dottedSelection_spread {name : String} (hon : name ≠ "on")
    (hd : ∀ d ∈ ds, d.Readable false levels) (hrest : EndsDirectives rest)
    (hclean : Clean (.name name :: (directivesTokens ds ++ rest))) :
    dottedSelection set levels (.name name :: (directivesTokens ds ++ rest)) =
      .ok (.spread name ds, rest) := by
  rw [dottedSelection, bind_ok (skipKeyword_of_ne (by simpa using hon)),
    if_neg Bool.false_ne_true, bind_ok (peek_apply _), List.head?_cons]
  dsimp only
  rw [spreadSelection, bind_ok (fragmentName_ok hon hclean.of_cons),
    bind_ok (directives_ok hd hrest hclean.of_cons)]
  rfl

theorem selection_of_dotted {s : Selection} {tokens : List Token} (hclean : Clean tokens)
    (h : dottedSelection set levels tokens = .ok (s, rest)) :
    selection set levels (.punctuator .dots :: tokens) = .ok (s, rest) := by
  rw [selection_eq, bind_ok (skipPunctuator_of_head hclean), if_pos rfl, h]

theorem selection_of_field {label : Option String} {name : String} {args : Arguments}
    {selections : SelectionSet} {r : Except Misfit (Selection × List Token)}
    (h : fieldSelection set levels
      ((Selection.field label name args ds selections).tokens ++ rest) = r) :
    selection set levels ((Selection.field label name args ds selections).tokens ++ rest) = r := by
  have hhead : ((Selection.field label name args ds selections).tokens ++ rest).head? ≠
      some (.punctuator .dots) := by
    cases label <;> simp [Selection.tokens, Selection.labelTokens]
  rw [selection_eq, bind_ok (skipPunctuator_of_ne hhead), if_neg Bool.false_ne_true, h]

end

theorem selection_ok {levels : Nat} {s : Selection} (h : s.Readable levels) {token : Token}
    {rest : List Token} (ht : FollowsSelection token) (hclean : Clean (s.tokens ++ token :: rest)) :
    selection (selectionSet levels) levels (s.tokens ++ token :: rest) =
      .ok (s, token :: rest) := by
  induction h generalizing token rest with
  | leaf hl hn ha hd =>
    exact selection_of_field (fieldSelection_ok ha hd (by simp) ht hclean)
  | field hl hn ha hd hne _ ih =>
    have hset := readsSet_of_readsItems (fun s hs _ _ ht hc => ih s hs ht hc) hne
    refine selection_of_field (fieldSelection_ok ha hd (fun list hlist => ?_) ht hclean)
    rwa [← Option.mem_some_iff.mp hlist]
  | spread hn hon hd =>
    have hends : EndsDirectives (token :: rest) :=
      ⟨ht.head?_ne (by decide), ht.head?_ne (by decide)⟩
    rw [Selection.tokens, List.cons_append, List.cons_append] at hclean ⊢
    exact selection_of_dotted hclean.of_cons
      (dottedSelection_spread hon hd hends hclean.of_cons)
  | inline hc hd hne _ ih =>
    have hset := readsSet_of_readsItems (fun s hs _ _ ht hc => ih s hs ht hc) hne
    rw [Selection.tokens, List.cons_append, List.append_assoc, List.append_assoc] at hclean ⊢
    exact selection_of_dotted hclean.of_cons (dottedSelection_inline hd hset hclean.of_cons)

theorem selectionSet_ok {selections : List Selection} (h : SetReadable (some selections)) :
    ReadsSet (selectionSet maxLevels) selections := by
  obtain ⟨list, he, hne, inner, hlevels, hs⟩ := h
  obtain rfl := Option.some.inj he
  rw [hlevels]
  exact readsSet_of_readsItems (fun s hm _ _ ht hc => selection_ok (hs s hm) ht hc) hne

end Parser

end QueryRegistry
