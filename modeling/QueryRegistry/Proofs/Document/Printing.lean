import Mathlib.Data.List.Forall2
import QueryRegistry.Proofs.Document.Readable

/-! What is written for a definition spells the tokens of the definition. Parts that leave no trace in
the text have no tokens, and what stands between parts is ignored or keeps their tokens apart. -/

namespace QueryRegistry

/-! ### Parts put together -/

/-- A separator that stands for nothing but keeps tokens apart. -/
def IsGap (text : String) : Prop := text ≠ "" ∧ text.toList.all isIgnored = true

theorem IsGap.breaks {gap : String} (h : IsGap gap) (text : List Char) :
    Breaks (gap.toList ++ text) := by
  cases hg : gap.toList with
  | nil => exact absurd (String.toList_eq_nil_iff.mp hg) h.1
  | cons c rest =>
    have hall := h.2
    rw [hg, List.all_cons, Bool.and_eq_true] at hall
    exact breaks_of_isIgnored hall.1 _

theorem Punctuator.breaks {p : Punctuator} (h : p ≠ .dots) (text : List Char) :
    Breaks (p.text.toList ++ text) := by
  cases p with
  | dots => exact absurd rfl h
  | _ => exact breaks_cons (by decide) (by decide) _

theorem Spells.join {text more : String} {tokens others : List Token}
    (h : Spells text.toList tokens) (hb : Breaks more.toList) (hm : Spells more.toList others) :
    Spells (text ++ more).toList (tokens ++ others) := by
  rw [String.toList_append]
  exact h.append hb hm

/-- What a gap keeps apart is spelled one after the other. -/
theorem Spells.apart {gap text more : String} {tokens others : List Token} (hg : IsGap gap)
    (h : Spells text.toList tokens) (hm : Spells more.toList others) :
    Spells (text ++ gap ++ more).toList (tokens ++ others) := by
  have hbreaks : Breaks (gap ++ more).toList := by
    rw [String.toList_append]
    exact hg.breaks more.toList
  have hgaps : Spells (gap ++ more).toList others := by
    rw [String.toList_append]
    exact hm.gaps hg.2
  rw [String.append_assoc]
  exact h.join hbreaks hgaps

theorem joinTexts_cons_empty (separator : String) (parts : List String) :
    joinTexts separator ("" :: parts) = joinTexts separator parts := by
  simp [joinTexts]

theorem toList_joinTexts_cons {separator part : String} {parts : List String} (h : part ≠ "") :
    (joinTexts separator (part :: parts) = part ∧ joinTexts separator parts = "") ∨
      joinTexts separator (part :: parts) = part ++ separator ++ joinTexts separator parts := by
  rw [joinTexts, joinTexts, List.filter_cons_of_pos (by simpa using h)]
  cases parts.filter (· ≠ "") with
  | nil => exact .inl ⟨by simp, by simp⟩
  | cons next rest => exact .inr (by simp [String.append_assoc])

/-- Parts with a gap between them spell what they spell one after another. -/
theorem spells_joinTexts {separator : String} (hg : IsGap separator) {parts : List String}
    {tokens : List (List Token)}
    (h : List.Forall₂ (fun part ts => Spells part.toList ts) parts tokens) :
    Spells (joinTexts separator parts).toList tokens.flatten := by
  induction h with
  | nil => exact .nil
  | @cons part ts parts tokens hp _ ih =>
    rw [List.flatten_cons]
    by_cases he : part = ""
    · subst he
      rw [joinTexts_cons_empty, hp.tokens_eq_nil]
      exact ih
    · rcases toList_joinTexts_cons he with ⟨hj, hrest⟩ | hj
      · rw [hrest] at ih
        rw [hj, ih.tokens_eq_nil, List.append_nil]
        exact hp
      · rw [hj]
        exact .apart hg hp ih

theorem spells_joinTexts_map {α : Type} {separator : String} (hg : IsGap separator)
    {items : List α} {print : α → String} {tokens : α → List Token}
    (h : ∀ item ∈ items, Spells (print item).toList (tokens item)) :
    Spells (joinTexts separator (items.map print)).toList (items.flatMap tokens) := by
  rw [List.flatMap_def]
  refine spells_joinTexts hg ?_
  rw [List.forall₂_map_left_iff, List.forall₂_map_right_iff, List.forall₂_same]
  exact h

theorem wrapText_empty (before after : String) : wrapText before "" after = "" := rfl

theorem wrapText_of_ne {text : String} (h : text ≠ "") (before after : String) :
    wrapText before text after = before ++ text ++ after := if_neg h

theorem Spells.behind {text : String} {tokens : List Token} (h : Spells text.toList tokens)
    (p : Punctuator) : Spells (p.text ++ text).toList (.punctuator p :: tokens) := by
  rw [String.toList_append]
  exact .punctuator p h

theorem Spells.string_ne {text : String} {tokens : List Token} (h : Spells text.toList tokens)
    (ht : tokens ≠ []) : text ≠ "" := by
  rintro rfl
  exact h.ne_nil ht rfl

/-- Brackets around a text, with gaps inside of them. -/
theorem spells_bracketed {before after text : String} {opening close : Punctuator}
    {tokens : List Token} (gap gap' : String) (hb : before = opening.text ++ gap)
    (ha : after = gap' ++ close.text) (hg : gap.toList.all isIgnored = true)
    (hg' : gap'.toList.all isIgnored = true) (hclose : close ≠ .dots)
    (h : Spells text.toList tokens) :
    Spells (before ++ text ++ after).toList
      (.punctuator opening :: (tokens ++ [.punctuator close])) := by
  have hend : Spells close.text.toList [.punctuator close] := by
    have he := Spells.punctuator close .nil
    rwa [List.append_nil] at he
  have hbreaks : Breaks (gap'.toList ++ close.text.toList) := by
    cases hc : gap'.toList with
    | nil => simpa using Punctuator.breaks hclose []
    | cons c rest =>
      rw [hc, List.all_cons, Bool.and_eq_true] at hg'
      exact breaks_of_isIgnored hg'.1 _
  subst hb ha
  simp only [String.toList_append, List.append_assoc]
  exact .punctuator opening ((h.append hbreaks (hend.gaps hg')).gaps hg)

theorem spells_enclosed {before after text : String} {opening close : Punctuator}
    {parts : List (List Token)} (gap gap' : String) (hb : before = opening.text ++ gap)
    (ha : after = gap' ++ close.text) (hg : gap.toList.all isIgnored = true)
    (hg' : gap'.toList.all isIgnored = true) (hclose : close ≠ .dots)
    (hparts : ∀ part ∈ parts, part ≠ []) (hempty : parts = [] → text = "")
    (h : Spells text.toList parts.flatten) :
    Spells (wrapText before text after).toList (enclosed opening close parts) := by
  cases parts with
  | nil =>
    rw [hempty rfl]
    exact .nil
  | cons part parts =>
    have hne : text ≠ "" := h.string_ne (by simp [hparts part])
    rw [wrapText_of_ne hne]
    exact spells_bracketed gap gap' hb ha hg hg' hclose h

theorem spells_wrapText_gap {gap text : String} (hg : IsGap gap) {tokens : List Token}
    (h : Spells text.toList tokens) : Spells (wrapText gap text "").toList tokens := by
  by_cases he : text = ""
  · subst he
    exact h
  · rw [wrapText_of_ne he, String.append_empty, String.toList_append]
    exact h.gaps hg.2

theorem breaks_wrapText {before : String} (h : ∀ text, Breaks (before.toList ++ text))
    (text after : String) : Breaks (wrapText before text after).toList := by
  rw [wrapText]
  split
  · exact breaks_nil
  · rw [String.append_assoc, String.toList_append]
    exact h _

theorem breaks_append {a b : List Char} (ha : Breaks a) (hb : Breaks b) : Breaks (a ++ b) := by
  cases a with
  | nil => exact hb
  | cons c a => exact stops_cons (ha c rfl)

/-! ### Names, numbers and quotations -/

theorem written_name {name : String} (h : IsName name.toList) :
    Written (.name name) name.toList := by
  have hw := Written.name h
  rwa [String.ofList_toList] at hw

theorem Numeral.text_eq {n : Numeral} {digits : String}
    (h : n.token = .int digits ∨ n.token = .float digits) : n.text = digits.toList := by
  rw [Numeral.token] at h
  split at h
  · rcases h with h | h
    · rw [← Token.int.inj h, String.toList_ofList]
    · simp at h
  · rcases h with h | h
    · simp at h
    · rw [← Token.float.inj h, String.toList_ofList]

theorem written_int {digits : String} (h : (Token.int digits).Sound) :
    Written (.int digits) digits.toList := by
  obtain ⟨n, hn⟩ := h
  have hw := Written.number n
  rwa [hn, Numeral.text_eq (.inl hn)] at hw

theorem written_float {digits : String} (h : (Token.float digits).Sound) :
    Written (.float digits) digits.toList := by
  obtain ⟨n, hn⟩ := h
  have hw := Written.number n
  rwa [hn, Numeral.text_eq (.inr hn)] at hw

theorem written_quoted {quotation : Quotation} (h : (Token.quoted quotation).Sound) :
    Written (.quoted quotation) quotation.print.toList := by
  obtain ⟨text, block⟩ := quotation
  cases block with
  | true =>
    obtain ⟨raw, hlay, hblock, hr, hc⟩ := exists_layOutBlock (h rfl)
    have hw := Written.block hr hc
    rw [hblock, String.ofList_toList] at hw
    simpa [Quotation.print, hlay] using hw
  | false =>
    have hw := Written.line text.toList
    rw [String.ofList_toList] at hw
    simpa [Quotation.print] using hw

theorem isGap_comma : IsGap ", " := ⟨by decide, rfl⟩

theorem isGap_blank : IsGap " " := ⟨by decide, rfl⟩

theorem isGap_newline : IsGap "\n" := ⟨by decide, rfl⟩

/-! ### Values, types and directives -/

theorem spells_labelled {name text : String} {tokens : List Token} (hn : IsName name.toList)
    (h : Spells text.toList tokens) :
    Spells (name ++ ": " ++ text).toList (.name name :: .punctuator .colon :: tokens) := by
  have hrest : Spells (':' :: ' ' :: text.toList) (.punctuator .colon :: tokens) :=
    .punctuator .colon (.gap (by decide) h)
  rw [String.append_assoc, String.toList_append, String.toList_append]
  exact .word (written_name hn) (breaks_cons (by decide) (by decide) _) hrest

theorem Value.printItems_eq (items : List Value) : printItems items = items.map print := by
  induction items with
  | nil => rfl
  | cons item rest ih => rw [printItems, ih, List.map_cons]

theorem Value.printFields_eq (fields : List (String × Value)) :
    printFields fields = printArguments fields := by
  induction fields with
  | nil => rfl
  | cons field rest ih => rw [printFields, ih, printArguments, printArguments, List.map_cons]

theorem Value.Readable.spells {constant : Bool} {levels : Nat} {value : Value}
    (h : value.Readable constant levels) : Spells value.print.toList value.tokens := by
  induction h with
  | variableName hn _ =>
    rw [Value.print, String.toList_append]
    exact .punctuator .dollar (written_name hn).spells
  | int h => exact (written_int h).spells
  | float h => exact (written_float h).spells
  | quoted h => exact (written_quoted h).spells
  | boolean value => cases value <;> exact (written_name (by decide)).spells
  | null => exact (written_name (by decide)).spells
  | enum hn _ => exact (written_name hn).spells
  | list _ ih =>
    rw [Value.print, Value.tokens, Value.printItems_eq, Value.tokensOfItems_eq]
    exact spells_bracketed "" "" rfl rfl rfl rfl (by decide)
      (spells_joinTexts_map isGap_comma ih)
  | object hn _ ih =>
    rw [Value.print, Value.tokens, Value.printFields_eq, Value.tokensOfFields_eq]
    exact spells_bracketed "" "" rfl rfl rfl rfl (by decide)
      (spells_joinTexts_map isGap_comma fun field hf => spells_labelled (hn field hf) (ih field hf))

theorem spells_joinArguments {constant : Bool} {levels : Nat} {separator : String}
    (hg : IsGap separator) {arguments : Arguments}
    (h : ∀ argument ∈ arguments, ArgumentReadable constant levels argument) :
    Spells (joinTexts separator (printArguments arguments)).toList
      (arguments.map argumentTokens).flatten := by
  rw [← List.flatMap_def]
  exact spells_joinTexts_map hg fun argument ha =>
    spells_labelled (h argument ha).name (h argument ha).value.spells

theorem argumentTokens_ne_nil {arguments : Arguments} :
    ∀ part ∈ arguments.map argumentTokens, part ≠ [] := by
  intro part hp
  obtain ⟨argument, -, rfl⟩ := List.mem_map.mp hp
  exact List.cons_ne_nil _ _

theorem spells_arguments {constant : Bool} {levels : Nat} {arguments : Arguments}
    (h : ∀ argument ∈ arguments, ArgumentReadable constant levels argument) :
    Spells (wrapText "(" (joinTexts ", " (printArguments arguments)) ")").toList
      (argumentsTokens arguments) := by
  refine spells_enclosed "" "" rfl rfl rfl rfl (by decide) argumentTokens_ne_nil
    (fun he => ?_) (spells_joinArguments isGap_comma h)
  rw [List.map_eq_nil_iff.mp he]
  rfl

theorem breaks_parenthesis (text : List Char) : Breaks ("(".toList ++ text) :=
  Punctuator.breaks (p := .parenthesisOpen) (by decide) text

theorem breaks_parenthesisLine (text : List Char) : Breaks ("(\n".toList ++ text) :=
  breaks_parenthesis ('\n' :: text)

theorem Directive.Readable.spells {constant : Bool} {levels : Nat} {directive : Directive}
    (h : directive.Readable constant levels) : Spells directive.print.toList directive.tokens := by
  rw [Directive.print, String.append_assoc, String.toList_append, String.toList_append]
  refine .punctuator .atSign (.word (written_name h.name) ?_ (spells_arguments h.arguments))
  exact breaks_wrapText breaks_parenthesis _ _

theorem spells_directives {constant : Bool} {levels : Nat} {directives : List Directive}
    (h : ∀ directive ∈ directives, directive.Readable constant levels) :
    Spells (Directive.printAll directives).toList (directivesTokens directives) :=
  spells_joinTexts_map isGap_blank fun directive hd => (h directive hd).spells

theorem spells_directivesBehind {constant : Bool} {levels : Nat} {directives : List Directive}
    (h : ∀ directive ∈ directives, directive.Readable constant levels) :
    Spells (wrapText " " (Directive.printAll directives) "").toList
      (directivesTokens directives) :=
  spells_wrapText_gap isGap_blank (spells_directives h)

theorem breaks_directives (directives : List Directive) :
    Breaks (wrapText " " (Directive.printAll directives) "").toList :=
  breaks_wrapText isGap_blank.breaks _ _

theorem TypeReference.Readable.spells {levels : Nat} {type : TypeReference}
    (h : type.Readable levels) : Spells type.print.toList type.tokens := by
  induction h with
  | named hn => exact (written_name hn).spells
  | list _ ih => exact spells_bracketed "" "" rfl rfl rfl rfl (by decide) ih
  | nonNull _ _ ih =>
    rw [TypeReference.print, String.toList_append]
    exact ih.append (breaks_cons (by decide) (by decide) _) (.punctuator .bang .nil)

/-! ### Descriptions and variables -/

theorem spells_above {description : Option Quotation} (h : DescriptionReadable description)
    {text : String} {tokens : List Token} (ht : Spells text.toList tokens) :
    Spells (Quotation.printAbove description ++ text).toList
      (describedBy description ++ tokens) := by
  cases description with
  | none =>
    rw [Quotation.printAbove, String.empty_append]
    exact ht
  | some quotation =>
    have hw := written_quoted (h quotation rfl)
    have hne := hw.spells.string_ne (List.cons_ne_nil _ _)
    rw [Quotation.printAbove, wrapText_of_ne hne, String.empty_append]
    exact .apart isGap_newline hw.spells ht

theorem Value.tokens_ne_nil (value : Value) : value.tokens ≠ [] := by
  cases value with
  | boolean value => cases value <;> exact List.cons_ne_nil _ _
  | _ => exact List.cons_ne_nil _ _

theorem spells_default {default : Option Value}
    (h : ∀ value ∈ default, value.Readable true Parser.maxLevels) :
    Spells (wrapText " = " ((default.map Value.print).getD "") "").toList
      (defaultTokens default) := by
  cases default with
  | none => exact .nil
  | some value =>
    have hv := (h value rfl).spells
    have hne := hv.string_ne value.tokens_ne_nil
    have hs : Spells (' ' :: '=' :: ' ' :: value.print.toList) (.punctuator .equals :: value.tokens) :=
      .gap (by decide) (.punctuator .equals (.gap (by decide) hv))
    rw [Option.map_some, Option.getD_some, wrapText_of_ne hne, String.append_empty,
      String.toList_append]
    exact hs

theorem breaks_default (default : Option Value) :
    Breaks (wrapText " = " ((default.map Value.print).getD "") "").toList := by
  have hequals : ∀ text, Breaks (" = ".toList ++ text) := fun text =>
    breaks_of_isIgnored (c := ' ') (by decide) _
  exact breaks_wrapText hequals _ _

theorem VariableDefinition.Readable.spells {definition : VariableDefinition}
    (h : definition.Readable) : Spells definition.print.toList definition.tokens := by
  have hdirectives := spells_directivesBehind h.directives
  have hbreaks := breaks_append (breaks_default definition.default)
    (breaks_directives definition.directives)
  have hdefault := (spells_default h.default).join (breaks_directives _) hdirectives
  have htype := h.type.spells.join (by rwa [String.toList_append]) hdefault
  have hname := (spells_labelled h.name htype).behind .dollar
  have habove := spells_above h.description hname
  rw [VariableDefinition.print, VariableDefinition.tokens]
  simpa [String.append_assoc, Punctuator.text] using habove

theorem VariableDefinition.tokens_ne_nil (definition : VariableDefinition) :
    definition.tokens ≠ [] := by
  simp [VariableDefinition.tokens]

theorem spells_parameters {parameters : List VariableDefinition}
    (h : ∀ parameter ∈ parameters, parameter.Readable) :
    Spells (printParameters parameters).toList (parametersTokens parameters) := by
  have hparts : ∀ part ∈ parameters.map VariableDefinition.tokens, part ≠ [] := by
    intro part hp
    obtain ⟨parameter, -, rfl⟩ := List.mem_map.mp hp
    exact parameter.tokens_ne_nil
  have hjoin : ∀ separator, IsGap separator →
      Spells (joinTexts separator (parameters.map VariableDefinition.print)).toList
        (parameters.map VariableDefinition.tokens).flatten := by
    intro separator hg
    rw [← List.flatMap_def]
    exact spells_joinTexts_map hg fun parameter hp => (h parameter hp).spells
  have hempty : ∀ separator, parameters.map VariableDefinition.tokens = [] →
      joinTexts separator (parameters.map VariableDefinition.print) = "" := by
    intro separator he
    rw [List.map_eq_nil_iff.mp he]
    rfl
  rw [printParameters, parametersTokens]
  split
  · exact spells_enclosed "\n" "\n" rfl rfl rfl rfl (by decide) hparts
      (hempty "\n") (hjoin "\n" isGap_newline)
  · exact spells_enclosed "" "" rfl rfl rfl rfl (by decide) hparts
      (hempty ", ") (hjoin ", " isGap_comma)

/-! ### Selections -/

theorem spells_indentText {text : String} {tokens : List Token} (h : Spells text.toList tokens) :
    Spells (indentText text).toList tokens := by
  have hi : Spells (String.ofList (indentChars text.toList)).toList tokens := by
    rw [String.toList_ofList]
    exact h.indent
  rw [indentText]
  exact spells_wrapText_gap ⟨by decide, rfl⟩ hi

/-- A call is the name and its arguments, however the arguments are laid out. -/
theorem exists_call {levels : Nat} {arguments : Arguments}
    (h : ∀ argument ∈ arguments, ArgumentReadable false levels argument) (call : String) :
    ∃ suffix, (if arguments.isEmpty then call
        else Selection.printCall call (printArguments arguments)) = call ++ suffix ∧
      Spells suffix.toList (argumentsTokens arguments) ∧ Breaks suffix.toList := by
  split
  next he =>
    rw [List.isEmpty_iff.mp he]
    exact ⟨"", by simp, .nil, breaks_nil⟩
  next he =>
    rw [Selection.printCall]
    split
    · refine ⟨_, rfl, ?_, breaks_wrapText breaks_parenthesisLine _ _⟩
      refine spells_enclosed "\n" "\n" rfl rfl rfl rfl (by decide)
        argumentTokens_ne_nil (fun hn => ?_) (spells_indentText (spells_joinArguments isGap_newline h))
      rw [List.map_eq_nil_iff.mp hn]
      rfl
    · exact ⟨_, rfl, spells_arguments h, breaks_wrapText breaks_parenthesis _ _⟩

theorem spells_label {label : Option String} (hl : ∀ l ∈ label, IsName l.toList) {text : String}
    {tokens : List Token} (h : Spells text.toList tokens) :
    Spells (Selection.printLabel label ++ text).toList (Selection.labelTokens label ++ tokens) := by
  cases label with
  | none =>
    rw [Selection.printLabel, String.empty_append]
    exact h
  | some label =>
    have hn := hl label rfl
    have hne := (written_name hn).spells.string_ne (List.cons_ne_nil _ _)
    rw [Selection.printLabel, wrapText_of_ne hne, String.empty_append]
    exact spells_labelled hn h

theorem Selection.printList_eq (selections : List Selection) :
    printList selections = selections.map print := by
  induction selections with
  | nil => rfl
  | cons selection rest ih => rw [printList, ih, List.map_cons]

theorem Selection.tokens_ne_nil (selection : Selection) : selection.tokens ≠ [] := by
  cases selection <;> simp [Selection.tokens]

theorem spells_set {selections : List Selection} (hne : selections ≠ [])
    (h : ∀ selection ∈ selections, Spells selection.print.toList selection.tokens) :
    Spells (Selection.printSet (some selections)).toList
      (Selection.tokensOfSet (some selections)) := by
  have hjoin := spells_joinTexts_map isGap_newline h
  have htokens : selections.flatMap Selection.tokens ≠ [] := by
    cases selections with
    | nil => exact absurd rfl hne
    | cons selection rest => simp [selection.tokens_ne_nil]
  have hindent := spells_indentText hjoin
  rw [Selection.printSet, Selection.printList_eq, Selection.tokensOfSet,
    Selection.tokensOfList_eq, blockOf, wrapText_of_ne (hindent.string_ne htokens)]
  exact spells_bracketed "\n" "\n" rfl rfl rfl rfl (by decide) hindent

theorem spells_field {levels : Nat} {label : Option String} {name : String}
    {arguments : Arguments} {directives : List Directive} {selections : SelectionSet}
    (hl : ∀ l ∈ label, IsName l.toList) (hn : IsName name.toList)
    (ha : ∀ argument ∈ arguments, ArgumentReadable false levels argument)
    (hd : ∀ directive ∈ directives, directive.Readable false levels)
    (hs : Spells (Selection.printSet selections).toList (Selection.tokensOfSet selections)) :
    Spells (Selection.field label name arguments directives selections).print.toList
      (Selection.field label name arguments directives selections).tokens := by
  obtain ⟨suffix, hcall, hsuffix, hbreaks⟩ := exists_call ha (Selection.printLabel label ++ name)
  have hset : Breaks (wrapText " " (Selection.printSet selections) "").toList :=
    breaks_wrapText isGap_blank.breaks _ _
  have hrest : Breaks (wrapText " " (Directive.printAll directives) "" ++
      wrapText " " (Selection.printSet selections) "").toList := by
    rw [String.toList_append]
    exact breaks_append (breaks_directives directives) hset
  have hbehind := (spells_directivesBehind hd).join hset
    (spells_wrapText_gap isGap_blank hs)
  have hcalled := hsuffix.join hrest hbehind
  have hnamed := (written_name hn).spells.join
    (by rw [String.toList_append]; exact breaks_append hbreaks hrest) hcalled
  have hlabelled := spells_label hl hnamed
  rw [Selection.print, Selection.tokens, hcall]
  simpa [String.append_assoc] using hlabelled

theorem spells_spaced {name text : String} {tokens : List Token} (hn : IsName name.toList)
    (h : Spells text.toList tokens) :
    Spells (name ++ " " ++ text).toList (.name name :: tokens) :=
  .apart isGap_blank (written_name hn).spells h

theorem spells_condition {condition : Option String} (h : ∀ c ∈ condition, IsName c.toList) :
    Spells (wrapText "on " (condition.getD "") "").toList
      (Selection.conditionTokens condition) := by
  cases condition with
  | none => exact .nil
  | some condition =>
    have hc := (written_name (h condition rfl)).spells
    rw [Option.getD_some, wrapText_of_ne (hc.string_ne (List.cons_ne_nil _ _)),
      String.append_empty]
    have hon : IsName "on".toList := by decide
    exact spells_spaced hon hc

theorem Selection.Readable.spells {levels : Nat} {selection : Selection}
    (h : selection.Readable levels) : Spells selection.print.toList selection.tokens := by
  induction h with
  | leaf hl hn ha hd => exact spells_field hl hn ha hd .nil
  | field hl hn ha hd hne _ ih => exact spells_field hl hn ha hd (spells_set hne ih)
  | @spread levels name directives hn _ hd =>
    have hdirectives := spells_directivesBehind hd
    have hname := (written_name hn).spells.join (breaks_directives directives) hdirectives
    have hdots := hname.behind .dots
    rw [Selection.print, Selection.tokens]
    simpa [String.append_assoc, Punctuator.text] using hdots
  | inline hc hd hne _ ih =>
    have hdots : Spells "...".toList [.punctuator .dots] := .punctuator .dots .nil
    have hjoin := spells_joinTexts isGap_blank
      (.cons hdots (.cons (spells_condition hc) (.cons (spells_directives hd)
        (.cons (spells_set hne ih) .nil))))
    rw [Selection.print, Selection.tokens]
    simpa using hjoin

/-! ### Operations and fragments -/

theorem OperationKind.isName_word (kind : OperationKind) : IsName kind.word.toList := by
  cases kind <;> decide

theorem Operation.heading_of_headingTokens {operation : Operation}
    (h : operation.headingTokens = [.name "query"]) : operation.heading = "query" := by
  rw [eq_of_headingTokens h]
  rfl

theorem breaks_parameters (parameters : List VariableDefinition) :
    Breaks (printParameters parameters).toList := by
  rw [printParameters]
  split
  · exact breaks_wrapText breaks_parenthesisLine _ _
  · exact breaks_wrapText breaks_parenthesis _ _

theorem spells_name? {name : Option String} (h : ∀ n ∈ name, IsName n.toList) {text : String}
    {tokens : List Token} (hb : Breaks text.toList) (ht : Spells text.toList tokens) :
    Spells (name.getD "" ++ text).toList ((name.map Token.name).toList ++ tokens) := by
  cases name with
  | none => simpa using ht
  | some name => exact (written_name (h name rfl)).spells.join hb ht

theorem Operation.Readable.spells_heading {operation : Operation} (h : operation.Readable) :
    Spells operation.heading.toList operation.headingTokens := by
  have hkind := (written_name operation.kind.isName_word).spells
  have hname := spells_name? h.name (breaks_parameters _) (spells_parameters h.parameters)
  have hjoin := spells_joinTexts isGap_blank
    (.cons hkind (.cons hname (.cons (spells_directives h.directives) .nil)))
  have habove := spells_above h.description hjoin
  rw [heading, headingTokens]
  simpa using habove

theorem SetReadable.spells {selections : SelectionSet} (h : SetReadable selections) :
    Spells (Selection.printSet selections).toList (Selection.tokensOfSet selections) := by
  obtain ⟨list, rfl, hne, inner, -, hs⟩ := h
  exact spells_set hne fun selection hm => (hs selection hm).spells

theorem Operation.Readable.spells {operation : Operation} (h : operation.Readable) :
    Spells operation.print.toList operation.tokens := by
  rw [Operation.print, Operation.tokens]
  by_cases hquery : operation.heading = "query"
  · have hheading := h.spells_heading
    have hword : Spells "query".toList [.name "query"] :=
      (written_name OperationKind.query.isName_word).spells
    rw [hquery] at hheading
    rw [if_pos hquery, if_pos (hheading.unique hword)]
    exact h.selections.spells
  · rw [if_neg hquery, if_neg fun ht => hquery (heading_of_headingTokens ht)]
    exact .apart isGap_blank h.spells_heading h.selections.spells

theorem Fragment.Readable.spells {fragment : Fragment} (h : fragment.Readable) :
    Spells fragment.print.toList fragment.tokens := by
  have hset := h.selections.spells
  have hdirectives : Spells (wrapText "" (Directive.printAll fragment.directives) " " ++
      Selection.printSet fragment.selections).toList
      (directivesTokens fragment.directives ++ Selection.tokensOfSet fragment.selections) := by
    have hd := spells_directives h.directives
    by_cases he : Directive.printAll fragment.directives = ""
    · rw [he] at hd ⊢
      rw [wrapText_empty, hd.tokens_eq_nil, String.empty_append]
      exact hset
    · rw [wrapText_of_ne he, String.empty_append]
      exact .apart isGap_blank hd hset
  have hon : IsName "on".toList := by decide
  have hword : IsName "fragment".toList := by decide
  have hcondition := spells_spaced hon (spells_spaced h.condition hdirectives)
  have hname := spells_spaced hword (spells_spaced h.name hcondition)
  have habove := spells_above h.description hname
  have hblank : "fragment " = "fragment" ++ " " := by decide
  have hon' : " on " = " " ++ ("on" ++ " ") := by decide
  rw [Fragment.print, Fragment.tokens, h.parameters, hblank, hon']
  simpa [String.append_assoc, joinTexts, wrapText_empty] using habove

theorem Executable.Readable.spells {definition : Executable} (h : definition.Readable) :
    Spells definition.print.toList definition.tokens := by
  cases definition with
  | operation op => exact Operation.Readable.spells h
  | fragment f => exact Fragment.Readable.spells h

/-- The text of definitions spells their tokens in a row. -/
theorem spells_printAll {definitions : List Executable}
    (h : ∀ definition ∈ definitions, definition.Readable) :
    Spells (Executable.printAll definitions).toList (definitions.flatMap Executable.tokens) := by
  have hne : ∀ text ∈ definitions.map Executable.print, text ≠ "" := by
    intro text ht
    obtain ⟨definition, hd, rfl⟩ := List.mem_map.mp ht
    exact (h definition hd).spells.string_ne (h definition hd).tokens_ne_nil
  have hjoin : joinTexts "\n" (definitions.map Executable.print) =
      Executable.printAll definitions := by
    rw [joinTexts, List.filter_eq_self.mpr (by simpa using hne), Executable.printAll]
  rw [← hjoin]
  exact spells_joinTexts_map isGap_newline fun definition hd => (h definition hd).spells

end QueryRegistry
