import QueryRegistry.Proofs.Document.Soundness

/-! Definitions of a type system are passed over. Their readers give nothing of what they read, so all
there is to say is that the tokens they leave over are as sound as those they were given. -/

namespace QueryRegistry

namespace Parser

variable {α β : Type}

/-- The reader leaves sound tokens over, whatever it gives. -/
class Passes (p : Parser α) : Prop where
  yields : Yields p fun _ => True

/-- All of the readers leave sound tokens over. -/
class PassAll (parts : List (Parser α)) : Prop where
  all : ∀ part ∈ parts, Passes part

namespace Passes

variable {p q : Parser α} {parts : List (Parser Bool)}

instance : PassAll ([] : List (Parser α)) := ⟨by simp⟩

instance {ps : List (Parser α)} [Passes p] [PassAll ps] : PassAll (p :: ps) := by
  refine ⟨fun part hp => ?_⟩
  rcases List.mem_cons.mp hp with rfl | hp
  · infer_instance
  · exact PassAll.all part hp

theorem of_yields {P : α → Prop} (h : Yields p P) : Passes p := ⟨h.mono fun _ _ => trivial⟩

instance {a : α} : Passes (pure a) := ⟨.pure trivial⟩

instance {f : α → Parser β} [Passes p] [∀ a, Passes (f a)] : Passes (p >>= f) :=
  ⟨(yields (p := p)).bind fun a _ => yields (p := f a)⟩

instance {f : α → β} [Passes p] : Passes (f <$> p) := ⟨(yields (p := p)).map fun _ _ => trivial⟩

instance {c : Prop} [Decidable c] [Passes p] [Passes q] : Passes (if c then p else q) :=
  ⟨.ite (fun _ => yields) fun _ => yields⟩

instance {fault : SyntaxFault} : Passes (fail fault : Parser α) := ⟨.fail⟩

instance {unread : Nat} {fault : SyntaxFault} : Passes (failAt unread fault : Parser α) := ⟨.failAt⟩

instance : Passes (unexpected : Parser α) := ⟨.unexpected⟩

instance : Passes peek := of_yields .peek

instance : Passes place := ⟨.place⟩

instance : Passes advance := ⟨.advance⟩

instance : Passes lookAhead := ⟨.lookAhead⟩

instance {q : Punctuator} : Passes (skipPunctuator q) := ⟨.skip _⟩

instance {word : String} : Passes (skipKeyword word) := ⟨.skip _⟩

instance {q : Punctuator} : Passes (expectPunctuator q) := ⟨.expectPunctuator q⟩

instance {word : String} : Passes (expectKeyword word) := ⟨.expectKeyword word⟩

instance : Passes expectName := of_yields .expectName

instance {opening close : Punctuator} [Passes p] : Passes (many opening close p) :=
  of_yields (yields (p := p)).many

instance {opening close : Punctuator} [Passes p] : Passes (optionalMany opening close p) :=
  of_yields (yields (p := p)).optionalMany

instance {levels : Nat} : Passes (typeReference levels) := of_yields (yields_typeReference levels)

instance {constant : Bool} {levels : Nat} : Passes (directives constant levels) :=
  of_yields (yields_directives constant levels)

instance : Passes description := of_yields yields_description

instance : Passes constantDefault := of_yields yields_constantDefault

instance : Passes operationKind := of_yields yields_operationKind

theorem separatedUpTo {separator : Punctuator} [Passes p] (bound : Nat) :
    Passes (Parser.separatedUpTo separator p bound) := by
  induction bound with
  | zero => exact inferInstanceAs (Passes unexpected)
  | succ bound ih =>
    rw [Parser.separatedUpTo]
    infer_instance

instance {separator : Punctuator} [Passes p] : Passes (separated separator p) := by
  have hbound : ∀ bound, Passes (Parser.separatedUpTo separator p bound) := separatedUpTo
  rw [separated]
  infer_instance

/-! ### The readers of definitions

Each of them is put together from readers that pass sound tokens on; a long row of steps makes a large
instance. -/

set_option synthInstance.maxSize 4000

instance : Passes constantDirectives := by
  rw [constantDirectives]
  infer_instance

instance : Passes inputValue := by
  rw [inputValue]
  infer_instance

instance {opening close : Punctuator} : Passes (inputValues opening close) := by
  rw [inputValues]
  infer_instance

instance : Passes fieldDefinition := by
  rw [fieldDefinition]
  infer_instance

instance : Passes fieldDefinitions := by
  rw [fieldDefinitions]
  infer_instance

instance : Passes interfaces := by
  rw [interfaces]
  infer_instance

instance : Passes members := by
  rw [members]
  infer_instance

instance : Passes enumValue := by
  rw [enumValue]
  have hfound : ∀ found : Option Token, Passes (match found with
      | some token =>
        if ["true", "false", "null"].any (some · == token.words?) then
          fail (.reservedEnumValue token)
        else do
          let _ ← expectName
          let _ ← constantDirectives
      | none => do let _ ← expectName) := by
    intro found
    cases found with
    | none => infer_instance
    | some token => infer_instance
  infer_instance

instance : Passes enumValues := by
  rw [enumValues]
  infer_instance

instance : Passes rootOperation := by
  rw [rootOperation]
  infer_instance

instance : Passes directiveLocation := by
  rw [directiveLocation]
  infer_instance

instance : Passes schemaDefinition := by
  rw [schemaDefinition]
  infer_instance

instance : Passes scalarDefinition := by
  rw [scalarDefinition]
  infer_instance

instance {kind : TypeSystemKind} : Passes (fieldsDefinition kind) := by
  rw [fieldsDefinition]
  infer_instance

instance : Passes unionDefinition := by
  rw [unionDefinition]
  infer_instance

instance : Passes enumDefinition := by
  rw [enumDefinition]
  infer_instance

instance : Passes inputDefinition := by
  rw [inputDefinition]
  infer_instance

instance : Passes directiveDefinition := by
  rw [directiveDefinition]
  infer_instance

theorem mapM (h : ∀ part ∈ parts, Passes part) : Passes (parts.mapM id) := by
  induction parts with
  | nil =>
    rw [List.mapM_nil]
    infer_instance
  | cons part parts ih =>
    have hpart : Passes (id part) := h part List.mem_cons_self
    have hparts := ih fun p hp => h p (List.mem_cons_of_mem _ hp)
    rw [List.mapM_cons]
    infer_instance

instance [hparts : PassAll parts] : Passes (parts.mapM id) := mapM hparts.all

instance {kind : TypeSystemKind} [PassAll parts] : Passes (extending kind parts) := by
  rw [extending]
  infer_instance

instance {kind : TypeSystemKind} [PassAll parts] : Passes (namedExtension kind parts) := by
  rw [namedExtension]
  infer_instance

instance : Passes schemaExtension := by
  rw [schemaExtension]
  infer_instance

theorem of_lookup {table : List (String × Parser TypeSystemKind)}
    (hall : PassAll (table.map Prod.snd)) {word : String} {body : Parser TypeSystemKind}
    (h : table.lookup word = some body) : Passes body := by
  obtain ⟨before, after, rfl, -⟩ := List.lookup_eq_some_iff.mp h
  exact hall.all body (by simp)

theorem of_typeSystemDefinition? {word : String} {body : Parser TypeSystemKind}
    (h : typeSystemDefinition? word = some body) : Passes body := by
  refine of_lookup ?_ h
  simp only [List.map_cons, List.map_nil]
  infer_instance

theorem of_typeSystemExtension? {word : String} {body : Parser TypeSystemKind}
    (h : typeSystemExtension? word = some body) : Passes body := by
  refine of_lookup ?_ h
  simp only [List.map_cons, List.map_nil]
  infer_instance

end Passes

theorem yields_typeSystemExtension : Yields typeSystemExtension fun _ => True := by
  refine Yields.place.bind fun _ _ => Yields.lookAhead.bind fun found _ => ?_
  split
  · split
    next body hbody =>
      have hpasses := Passes.of_typeSystemExtension? hbody
      exact Yields.advance.bind fun _ _ => Yields.advance.bind fun _ _ => Passes.yields
    · exact .failAt
  · exact .failAt

end Parser

end QueryRegistry
