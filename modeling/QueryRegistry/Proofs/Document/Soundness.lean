import QueryRegistry.Proofs.Document.Readable
import QueryRegistry.Proofs.Document.Steps

/-! What is read can be read. Whatever a reader gives for the tokens of a text is syntax of the kind that
the readers take: its names are names of the text, its lists were not empty where they may not be, and
its brackets were counted on the way in. -/

namespace QueryRegistry

namespace Parser

variable {α β : Type}

/-! ### Rules -/

def AllSound (tokens : List Token) : Prop := ∀ token ∈ tokens, token.Sound

/-- What the reader gives for sound tokens has the property, and the tokens left over are sound. -/
def Yields (p : Parser α) (P : α → Prop) : Prop :=
  ∀ tokens a rest, AllSound tokens → p tokens = .ok (a, rest) → P a ∧ AllSound rest

theorem exists_of_bind_eq_ok {p : Parser α} {f : α → Parser β} {tokens rest : List Token} {b : β}
    (h : (p >>= f) tokens = .ok (b, rest)) :
    ∃ a later, p tokens = .ok (a, later) ∧ f a later = .ok (b, rest) := by
  change (p tokens >>= fun x => f x.1 x.2) = _ at h
  cases hp : p tokens with
  | error misfit =>
    rw [hp] at h
    simp [bind, Except.bind] at h
  | ok result =>
    rw [hp] at h
    exact ⟨result.1, result.2, rfl, h⟩

theorem eq_ok_of_settle {γ : Type} {tokens : List Token} {f : List Token → Except Misfit γ}
    {result : γ} (h : (settle tokens >>= f) = .ok result) : f tokens = .ok result := by
  rw [settle.eq_def] at h
  split at h
  · simp [bind, Except.bind] at h
  · exact h

namespace Yields

variable {p : Parser α} {P Q : α → Prop} {R : β → Prop}

theorem pure {a : α} (h : P a) : Yields (Pure.pure a) P := by
  intro tokens b rest ht he
  obtain ⟨rfl, rfl⟩ := Prod.mk.inj (Except.ok.inj he)
  exact ⟨h, ht⟩

theorem bind {f : α → Parser β} (hp : Yields p Q) (hf : ∀ a, Q a → Yields (f a) R) :
    Yields (p >>= f) R := by
  intro tokens b rest ht he
  obtain ⟨a, later, ha, hb⟩ := exists_of_bind_eq_ok he
  obtain ⟨hq, hl⟩ := hp _ _ _ ht ha
  exact hf a hq _ _ _ hl hb

theorem mono (hp : Yields p Q) (h : ∀ a, Q a → P a) : Yields p P := by
  intro tokens a rest ht he
  obtain ⟨hq, hl⟩ := hp _ _ _ ht he
  exact ⟨h a hq, hl⟩

theorem map {f : α → β} (hp : Yields p Q) (h : ∀ a, Q a → R (f a)) : Yields (f <$> p) R := by
  rw [map_eq_pure_bind]
  exact hp.bind fun a ha => .pure (h a ha)

theorem ite {c : Prop} [Decidable c] {q : Parser α} (hp : c → Yields p P) (hq : ¬c → Yields q P) :
    Yields (if c then p else q) P := by
  split
  next hc => exact hp hc
  next hc => exact hq hc

theorem fail {fault : SyntaxFault} : Yields (Parser.fail fault) P :=
  fun _ _ _ _ he => by simp [Parser.fail] at he

theorem failAt {unread : Nat} {fault : SyntaxFault} : Yields (Parser.failAt unread fault) P :=
  fun _ _ _ _ he => by simp [Parser.failAt] at he

theorem unexpected : Yields (Parser.unexpected : Parser α) P :=
  fun _ _ _ _ he => by
    obtain ⟨_, _, _, hf⟩ := exists_of_bind_eq_ok he
    simp [Parser.fail] at hf

theorem peek : Yields Parser.peek fun found => ∀ token ∈ found, token.Sound := by
  intro tokens a rest ht he
  obtain ⟨rfl, rfl⟩ := Prod.mk.inj (Except.ok.inj he)
  exact ⟨fun token hm => ht token (List.mem_of_mem_head? hm), ht⟩

theorem place : Yields Parser.place fun _ => True := by
  intro tokens a rest ht he
  obtain ⟨rfl, rfl⟩ := Prod.mk.inj (Except.ok.inj he)
  exact ⟨trivial, ht⟩

theorem atPunctuator (q : Punctuator) : Yields (Parser.atPunctuator q) fun _ => True :=
  peek.bind fun _ _ => .pure trivial

theorem advance : Yields Parser.advance fun _ => True := by
  intro tokens a rest ht he
  obtain ⟨-, rfl⟩ := Prod.mk.inj (Except.ok.inj (eq_ok_of_settle he))
  exact ⟨trivial, fun token hm => ht token (List.mem_of_mem_tail hm)⟩

theorem lookAhead : Yields Parser.lookAhead fun _ => True := by
  intro tokens a rest ht he
  obtain ⟨-, rfl⟩ := Prod.mk.inj (Except.ok.inj (eq_ok_of_settle he))
  exact ⟨trivial, ht⟩

theorem skip (token : Token) : Yields (Parser.skip token) fun _ => True :=
  peek.bind fun _ _ => .ite (fun _ => advance.bind fun _ _ => .pure trivial) fun _ => .pure trivial

theorem expectPunctuator (q : Punctuator) : Yields (Parser.expectPunctuator q) fun _ => True :=
  (skip _).bind fun _ _ => .ite (fun _ => .pure trivial) fun _ => peek.bind fun _ _ => .fail

theorem expectKeyword (word : String) : Yields (Parser.expectKeyword word) fun _ => True :=
  (skip _).bind fun _ _ => .ite (fun _ => .pure trivial) fun _ => peek.bind fun _ _ => .fail

theorem expectName : Yields Parser.expectName fun name => IsName name.toList := by
  refine peek.bind fun found hf => ?_
  split
  next name => exact advance.bind fun _ _ => .pure (hf (.name name) rfl)
  next => exact .fail

theorem itemsUntil {close : Punctuator} (hp : Yields p P) (bound : Nat) :
    Yields (Parser.itemsUntil close p bound) fun xs => xs ≠ [] ∧ ∀ x ∈ xs, P x := by
  induction bound with
  | zero => exact .unexpected
  | succ bound ih =>
    refine hp.bind fun first hfirst => (skip _).bind fun _ _ => .ite (fun _ => ?_) fun _ => ?_
    · exact .pure ⟨List.cons_ne_nil _ _, by simpa using hfirst⟩
    · refine ih.bind fun xs hxs => ?_
      exact .pure ⟨List.cons_ne_nil _ _, List.forall_mem_cons.mpr ⟨hfirst, hxs.2⟩⟩

theorem items {close : Punctuator} (hp : Yields p P) :
    Yields (Parser.items close p) fun xs => xs ≠ [] ∧ ∀ x ∈ xs, P x :=
  place.bind fun _ _ => hp.itemsUntil _

theorem many {opening close : Punctuator} (hp : Yields p P) :
    Yields (Parser.many opening close p) fun xs => xs ≠ [] ∧ ∀ x ∈ xs, P x :=
  (expectPunctuator _).bind fun _ _ => hp.items

theorem optionalMany {opening close : Punctuator} (hp : Yields p P) :
    Yields (Parser.optionalMany opening close p) fun xs => ∀ x ∈ xs, P x :=
  (skip _).bind fun _ _ => .ite (fun _ => hp.items.mono fun _ hxs => hxs.2) fun _ => .pure (by simp)

theorem any {opening close : Punctuator} (hp : Yields p P) :
    Yields (Parser.any opening close p) fun xs => ∀ x ∈ xs, P x :=
  (expectPunctuator _).bind fun _ _ => (skip _).bind fun _ _ =>
    .ite (fun _ => .pure (by simp)) fun _ => hp.items.mono fun _ hxs => hxs.2

end Yields

/-! ### Values and directives -/

theorem readable_namedValue {constant : Bool} {levels : Nat} {name : String}
    (h : IsName name.toList) : (namedValue name).Readable constant levels := by
  by_cases htrue : name = "true"
  · subst htrue
    exact .boolean true
  · by_cases hfalse : name = "false"
    · subst hfalse
      exact .boolean false
    · by_cases hnull : name = "null"
      · subst hnull
        exact .null
      · have henum : namedValue name = .enum name := by
          rw [namedValue, if_neg htrue, if_neg hfalse, if_neg hnull]
        rw [henum]
        exact .enum h henum

theorem yields_variableValue (constant : Bool) (levels : Nat) :
    Yields (variableValue constant) (Value.Readable constant levels) := by
  refine Yields.place.bind fun start _ => (Yields.expectPunctuator _).bind fun _ _ => ?_
  refine .ite (fun _ => Yields.peek.bind fun found _ => ?_) fun hc => ?_
  · split
    · exact .failAt
    · exact .failAt
  · exact Yields.expectName.bind fun name hn => .pure (.variableName hn (by simpa using hc))

theorem yields_argument {constant : Bool} {levels : Nat}
    (h : Yields (value constant levels) (Value.Readable constant levels)) :
    Yields (argument constant levels) (ArgumentReadable constant levels) := by
  refine Yields.expectName.bind fun name hname => ?_
  refine (Yields.expectPunctuator _).bind fun _ _ => ?_
  refine h.bind fun value hvalue => ?_
  exact .pure ⟨hname, hvalue⟩

/-- A value is as sound as the values in it, which stand with fewer levels left. -/
theorem yields_value_of_inner {constant : Bool} {levels : Nat}
    (h : ∀ inner < levels, Yields (value constant inner) (Value.Readable constant inner)) :
    Yields (value constant levels) (Value.Readable constant levels) := by
  have hadvance : ∀ {v : Value}, v.Readable constant levels →
      Yields (advance >>= fun _ => pure v) (Value.Readable constant levels) := fun hv =>
    Yields.advance.bind fun _ _ => .pure hv
  rw [value.eq_def]
  refine Yields.peek.bind fun found hfound => ?_
  split
  · split
    · exact .fail
    next inner =>
      refine (h inner inner.lt_succ_self).any.bind fun items hitems => ?_
      exact .pure (.list hitems)
  · split
    · exact .fail
    next inner =>
      refine (yields_argument (h inner inner.lt_succ_self)).any.bind fun fields hfields => ?_
      have hnames : ∀ field ∈ fields, IsName field.1.toList := fun field hf =>
        (hfields field hf).name
      exact .pure (.object hnames fun field hf => (hfields field hf).value)
  · exact yields_variableValue constant levels
  next digits => exact hadvance (.int (hfound _ rfl))
  next digits => exact hadvance (.float (hfound _ rfl))
  next quotation => exact hadvance (.quoted (hfound _ rfl))
  next name => exact hadvance (readable_namedValue (hfound _ rfl))
  · exact .unexpected

theorem yields_value (constant : Bool) (levels : Nat) :
    Yields (value constant levels) (Value.Readable constant levels) := by
  induction levels using Nat.strongRecOn with
  | ind levels ih => exact yields_value_of_inner ih

theorem yields_arguments (constant : Bool) (levels : Nat) :
    Yields (arguments constant levels)
      fun xs => ∀ x ∈ xs, ArgumentReadable constant levels x :=
  (yields_argument (yields_value constant levels)).optionalMany

theorem yields_directive (constant : Bool) (levels : Nat) :
    Yields (directive constant levels) (Directive.Readable constant levels) := by
  refine (Yields.expectPunctuator _).bind fun _ _ => ?_
  refine Yields.expectName.bind fun name hname => ?_
  refine (yields_arguments constant levels).bind fun args hargs => ?_
  exact .pure ⟨hname, hargs⟩

theorem yields_directives (constant : Bool) (levels : Nat) :
    Yields (directives constant levels) fun ds => ∀ d ∈ ds, d.Readable constant levels := by
  refine Yields.place.bind fun bound _ => ?_
  induction bound with
  | zero => exact .pure (by simp)
  | succ bound ih =>
    refine (Yields.atPunctuator _).bind fun _ _ => .ite (fun _ => ?_) fun _ => .pure (by simp)
    refine (yields_directive constant levels).bind fun d hd => ?_
    refine ih.bind fun ds hds => ?_
    exact .pure (List.forall_mem_cons.mpr ⟨hd, hds⟩)

/-! ### Types and variables -/

theorem yields_markedType {levels : Nat} {t : TypeReference} (h : t.Readable levels)
    (hb : ∀ inner, t ≠ .nonNull inner) : Yields (markedType t) (TypeReference.Readable levels) :=
  (Yields.skip _).bind fun _ _ => .ite (fun _ => .pure (.nonNull h hb)) fun _ => .pure h

theorem yields_typeReference_of_inner {levels : Nat}
    (h : ∀ inner < levels, Yields (typeReference inner) (TypeReference.Readable inner)) :
    Yields (typeReference levels) (TypeReference.Readable levels) := by
  have hbare : Yields (bareType levels) fun t => t.Readable levels ∧ ∀ inner, t ≠ .nonNull inner := by
    rw [bareType.eq_def]
    refine (Yields.skip _).bind fun _ _ => .ite (fun _ => ?_) fun _ => ?_
    · split
      · exact .fail
      next inner =>
        refine (h inner inner.lt_succ_self).bind fun item hitem => ?_
        refine (Yields.expectPunctuator _).bind fun _ _ => ?_
        exact .pure ⟨.list hitem, by simp⟩
    · exact Yields.expectName.map fun _ hn => ⟨.named hn, by simp⟩
  rw [typeReference_eq]
  exact hbare.bind fun _ ht => yields_markedType ht.1 ht.2

theorem yields_typeReference (levels : Nat) :
    Yields (typeReference levels) (TypeReference.Readable levels) := by
  induction levels using Nat.strongRecOn with
  | ind levels ih => exact yields_typeReference_of_inner ih

theorem yields_description : Yields description DescriptionReadable := by
  refine Yields.peek.bind fun found hfound => ?_
  split
  next quotation =>
    exact Yields.advance.bind fun _ _ => .pure fun q hq =>
      Option.mem_some_iff.mp hq ▸ hfound _ rfl
  next => exact .pure fun _ hq => by simp at hq

theorem yields_constantDefault :
    Yields constantDefault fun d => ∀ v ∈ d, v.Readable true maxLevels := by
  refine (Yields.skip _).bind fun _ _ => .ite (fun _ => ?_) fun _ => .pure (by simp)
  exact (yields_value true maxLevels).bind fun v hv => .pure fun v' hv' =>
    Option.mem_some_iff.mp hv' ▸ hv

theorem yields_variableDefinition : Yields variableDefinition VariableDefinition.Readable := by
  refine yields_description.bind fun _ hdescription => ?_
  refine (Yields.expectPunctuator _).bind fun _ _ => ?_
  refine Yields.expectName.bind fun _ hname => ?_
  refine (Yields.expectPunctuator _).bind fun _ _ => ?_
  refine (yields_typeReference maxLevels).bind fun _ htype => ?_
  refine yields_constantDefault.bind fun _ hdefault => ?_
  refine (yields_directives true maxLevels).bind fun _ hdirectives => ?_
  exact .pure ⟨hdescription, hname, htype, hdefault, hdirectives⟩

/-! ### Selections -/

theorem head?_of_expectName {tokens rest : List Token} {name : String}
    (h : expectName tokens = .ok (name, rest)) : tokens.head? = some (.name name) := by
  rw [expectName, bind_ok (peek_apply _)] at h
  cases tokens with
  | nil => simp [fail] at h
  | cons token later =>
    cases token with
    | name text =>
      obtain ⟨_, _, _, hp⟩ := exists_of_bind_eq_ok h
      obtain ⟨rfl, -⟩ := Prod.mk.inj (Except.ok.inj hp)
      rfl
    | _ => simp [fail] at h

theorem yields_fragmentName :
    Yields fragmentName fun name => IsName name.toList ∧ name ≠ "on" := by
  intro tokens name rest ht he
  rw [fragmentName, bind_ok (peek_apply _)] at he
  split at he
  · exact absurd he (Yields.unexpected (P := fun _ => False) _ _ _ ht · |>.1)
  next hon =>
    obtain ⟨hn, hrest⟩ := Yields.expectName _ _ _ ht he
    refine ⟨⟨hn, ?_⟩, hrest⟩
    rintro rfl
    rw [head?_of_expectName he] at hon
    exact hon rfl

/-- A set of selections that stands at a place with so many levels left. -/
def SetFits (levels : Nat) (selections : List Selection) : Prop :=
  selections ≠ [] ∧ ∃ inner, levels = inner + 1 ∧ ∀ s ∈ selections, s.Readable inner

section

variable {set : Parser (List Selection)} {levels : Nat}

theorem readable_inline {condition : Option String} {ds : List Directive}
    {selections : List Selection} (hc : ∀ c ∈ condition, IsName c.toList)
    (hd : ∀ d ∈ ds, d.Readable false levels) (hs : SetFits levels selections) :
    Selection.Readable levels (.inline condition ds (some selections)) := by
  obtain ⟨hne, inner, rfl, hs⟩ := hs
  exact .inline hc hd hne hs

theorem readable_field {label : Option String} {name : String} {args : Arguments}
    {ds : List Directive} {selections : SelectionSet} (hl : ∀ l ∈ label, IsName l.toList)
    (hn : IsName name.toList) (ha : ∀ x ∈ args, ArgumentReadable false levels x)
    (hd : ∀ d ∈ ds, d.Readable false levels) (hs : ∀ list ∈ selections, SetFits levels list) :
    Selection.Readable levels (.field label name args ds selections) := by
  cases selections with
  | none => exact .leaf hl hn ha hd
  | some list =>
    obtain ⟨hne, inner, rfl, hlist⟩ := hs list rfl
    exact .field hl hn ha hd hne hlist

theorem yields_inlineSelection (hset : Yields set (SetFits levels)) {condition : Option String}
    (hc : ∀ c ∈ condition, IsName c.toList) :
    Yields (inlineSelection set levels condition) (Selection.Readable levels) := by
  refine (yields_directives false levels).bind fun ds hd => ?_
  refine hset.bind fun selections hs => ?_
  exact .pure (readable_inline hc hd hs)

theorem yields_dottedSelection (hset : Yields set (SetFits levels)) :
    Yields (dottedSelection set levels) (Selection.Readable levels) := by
  refine (Yields.skip _).bind fun _ _ => .ite (fun _ => ?_) fun _ => ?_
  · refine Yields.expectName.bind fun name hn => yields_inlineSelection hset fun c hc => ?_
    exact Option.mem_some_iff.mp hc ▸ hn
  · refine Yields.peek.bind fun found _ => ?_
    split
    · refine yields_fragmentName.bind fun name hn => ?_
      refine (yields_directives false levels).bind fun ds hd => ?_
      exact .pure (.spread hn.1 hn.2 hd)
    · exact yields_inlineSelection hset (by simp)

theorem yields_labelledName {first : String} (h : IsName first.toList) :
    Yields (labelledName first) fun named =>
      (∀ l ∈ named.1, IsName l.toList) ∧ IsName named.2.toList := by
  refine (Yields.skip _).bind fun _ _ => .ite (fun _ => ?_) fun _ => .pure ⟨by simp, h⟩
  exact Yields.expectName.bind fun name hn => .pure ⟨by simpa using h, hn⟩

theorem yields_optionalSet (hset : Yields set (SetFits levels)) :
    Yields (optionalSet set) fun selections => ∀ list ∈ selections, SetFits levels list :=
  (Yields.atPunctuator _).bind fun _ _ =>
    .ite (fun _ => hset.map fun _ hs => by simpa using hs) fun _ => .pure (by simp)

theorem yields_fieldSelection (hset : Yields set (SetFits levels)) :
    Yields (fieldSelection set levels) (Selection.Readable levels) := by
  refine Yields.expectName.bind fun first hfirst => ?_
  refine (yields_labelledName hfirst).bind fun named hn => ?_
  refine (yields_arguments false levels).bind fun args ha => ?_
  refine (yields_directives false levels).bind fun ds hd => ?_
  refine (yields_optionalSet hset).bind fun selections hs => ?_
  exact .pure (readable_field hn.1 hn.2 ha hd hs)

theorem yields_selection (hset : Yields set (SetFits levels)) :
    Yields (selection set levels) (Selection.Readable levels) := by
  rw [selection_eq]
  exact (Yields.skip _).bind fun _ _ =>
    .ite (fun _ => yields_dottedSelection hset) fun _ => yields_fieldSelection hset

end

theorem yields_selectionSet (levels : Nat) : Yields (selectionSet levels) (SetFits levels) := by
  induction levels with
  | zero => exact .fail
  | succ levels ih =>
    exact (yields_selection ih).many.mono fun selections hs => ⟨hs.1, levels, rfl, hs.2⟩

/-! ### Operations and fragments -/

theorem SetFits.readable {selections : List Selection} (h : SetFits maxLevels selections) :
    SetReadable (some selections) := ⟨selections, rfl, h⟩

theorem yields_operationKind : Yields operationKind fun _ => True := by
  refine Yields.place.bind fun _ _ => Yields.expectName.bind fun word _ => ?_
  split
  · exact .pure trivial
  · exact .failAt

theorem yields_optionalName : Yields optionalName fun name => ∀ n ∈ name, IsName n.toList := by
  refine Yields.peek.bind fun found _ => ?_
  split
  · exact Yields.expectName.map fun _ hn => by simpa using hn
  · exact .pure (by simp)

theorem yields_operation : Yields operation Operation.Readable := by
  rw [operation_eq]
  refine yields_description.bind fun _ hdescription => ?_
  refine yields_operationKind.bind fun _ _ => ?_
  refine yields_optionalName.bind fun _ hname => ?_
  refine yields_variableDefinition.optionalMany.bind fun _ hparameters => ?_
  refine (yields_directives false maxLevels).bind fun _ hdirectives => ?_
  refine (yields_selectionSet maxLevels).bind fun _ hset => ?_
  exact .pure ⟨hdescription, hname, hparameters, hdirectives, hset.readable⟩

theorem yields_shorthand : Yields shorthand Operation.Readable := by
  refine (yields_selectionSet maxLevels).bind fun _ hset => ?_
  exact .pure ⟨by simp [DescriptionReadable], by simp, by simp, by simp, hset.readable⟩

theorem yields_fragment : Yields fragment Fragment.Readable := by
  refine yields_description.bind fun _ hdescription => ?_
  refine (Yields.expectKeyword _).bind fun _ _ => ?_
  refine yields_fragmentName.bind fun _ hname => ?_
  refine (Yields.expectKeyword _).bind fun _ _ => ?_
  refine Yields.expectName.bind fun _ hcondition => ?_
  refine (yields_directives false maxLevels).bind fun _ hdirectives => ?_
  refine (yields_selectionSet maxLevels).bind fun _ hset => ?_
  exact .pure ⟨hdescription, hname.1, hname.2, rfl, hcondition, hdirectives, hset.readable⟩

end Parser

end QueryRegistry
