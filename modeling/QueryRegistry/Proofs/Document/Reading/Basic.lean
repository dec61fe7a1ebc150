import QueryRegistry.Proofs.Document.Readable
import QueryRegistry.Proofs.Document.Steps

/-! Reading gives back what the tokens are the tokens of. Each reader takes the tokens of the syntax that
it reads, up to their end, as long as what follows cannot belong to that syntax too. Here this is said
of single tokens and of lists of items. -/

namespace QueryRegistry

namespace Parser

variable {α β : Type}

/-! ### Tokens that can be read -/

def Clean (tokens : List Token) : Prop := ∀ fault, .unreadable fault ∉ tokens

theorem Clean.of_cons {token : Token} {tokens : List Token} (h : Clean (token :: tokens)) :
    Clean tokens := fun fault hm => h fault (List.mem_cons_of_mem _ hm)

theorem Clean.of_append {tokens more : List Token} (h : Clean (tokens ++ more)) : Clean more :=
  fun fault hm => h fault (List.mem_append_right _ hm)

theorem settle_clean {tokens : List Token} (h : Clean tokens) : settle tokens = .ok tokens := by
  cases tokens with
  | nil => rfl
  | cons token rest =>
    cases token with
    | unreadable fault => exact absurd List.mem_cons_self (h fault)
    | _ => rfl

theorem advance_clean {token : Token} {rest : List Token} (h : Clean rest) :
    advance (token :: rest) = .ok ((), rest) := by
  rw [advance, List.tail_cons, settle_clean h]
  rfl

theorem skip_of_head {token : Token} {rest : List Token} (h : Clean rest) :
    skip token (token :: rest) = .ok (true, rest) := by
  rw [skip, bind_ok (peek_apply _), List.head?_cons, if_pos rfl, bind_ok (advance_clean h)]
  rfl

theorem skip_of_ne {token : Token} {tokens : List Token} (h : tokens.head? ≠ some token) :
    skip token tokens = .ok (false, tokens) := by
  rw [skip, bind_ok (peek_apply _), if_neg h]
  rfl

theorem skipPunctuator_of_head {p : Punctuator} {rest : List Token} (h : Clean rest) :
    skipPunctuator p (.punctuator p :: rest) = .ok (true, rest) := skip_of_head h

theorem skipPunctuator_of_ne {p : Punctuator} {tokens : List Token}
    (h : tokens.head? ≠ some (.punctuator p)) : skipPunctuator p tokens = .ok (false, tokens) :=
  skip_of_ne h

theorem skipKeyword_of_head {word : String} {rest : List Token} (h : Clean rest) :
    skipKeyword word (.name word :: rest) = .ok (true, rest) := skip_of_head h

theorem skipKeyword_of_ne {word : String} {tokens : List Token}
    (h : tokens.head? ≠ some (.name word)) : skipKeyword word tokens = .ok (false, tokens) :=
  skip_of_ne h

theorem expectPunctuator_of_head {p : Punctuator} {rest : List Token} (h : Clean rest) :
    expectPunctuator p (.punctuator p :: rest) = .ok ((), rest) := by
  rw [expectPunctuator, bind_ok (skipPunctuator_of_head h)]
  rfl

theorem expectKeyword_of_head {word : String} {rest : List Token} (h : Clean rest) :
    expectKeyword word (.name word :: rest) = .ok ((), rest) := by
  rw [expectKeyword, bind_ok (skipKeyword_of_head h)]
  rfl

theorem expectName_of_head {name : String} {rest : List Token} (h : Clean rest) :
    expectName (.name name :: rest) = .ok (name, rest) := by
  rw [expectName, bind_ok (peek_apply _), List.head?_cons]
  dsimp only
  rw [bind_ok (advance_clean h)]
  rfl

/-! ### Lists -/

section

variable (opening : Punctuator) {close : Punctuator} {item : Parser α} {spell : α → List Token}
  {Follows : Token → Prop} {xs : List α} {rest : List Token}

/-- If the token is a punctuator, it is one of these. -/
def Only (punctuators : List Punctuator) (token : Token) : Prop :=
  ∀ p, token = .punctuator p → p ∈ punctuators

theorem only_punctuator {punctuators : List Punctuator} {p : Punctuator} (h : p ∈ punctuators) :
    Only punctuators (.punctuator p) := fun _ he => Token.punctuator.inj he ▸ h

theorem Only.head?_ne {punctuators : List Punctuator} {token : Token} {p : Punctuator}
    {tokens : List Token} (h : Only punctuators token) (hp : p ∉ punctuators) :
    (token :: tokens).head? ≠ some (.punctuator p) := fun he => hp (h p (Option.some.inj he))

/-- An item is read from its tokens if what follows them may follow an item. -/
def ReadsItems (item : Parser α) (spell : α → List Token) (Follows : Token → Prop)
    (xs : List α) : Prop :=
  ∀ x ∈ xs, ∀ token rest, Follows token → Clean (spell x ++ token :: rest) →
    item (spell x ++ token :: rest) = .ok (x, token :: rest)

/-- Items begin with tokens that may follow an item and do not close a list of them. -/
def StartsItems (close : Punctuator) (spell : α → List Token) (Follows : Token → Prop)
    (xs : List α) : Prop :=
  ∀ x ∈ xs, ∃ token tail, spell x = token :: tail ∧ Follows token ∧ token ≠ .punctuator close

theorem itemsUntil_ok (hitem : ReadsItems item spell Follows xs)
    (hstart : StartsItems close spell Follows xs) (hclose : Follows (.punctuator close))
    (hne : xs ≠ []) {bound : Nat} (hbound : xs.length ≤ bound)
    (hclean : Clean (xs.flatMap spell ++ .punctuator close :: rest)) :
    itemsUntil close item bound (xs.flatMap spell ++ .punctuator close :: rest) =
      .ok (xs, rest) := by
  induction xs generalizing bound with
  | nil => exact absurd rfl hne
  | cons x xs ih =>
    cases bound with
    | zero => simp at hbound
    | succ bound =>
      rw [List.flatMap_cons, List.append_assoc] at hclean ⊢
      cases xs with
      | nil =>
        rw [List.flatMap_nil, List.nil_append] at hclean ⊢
        rw [itemsUntil, bind_ok (hitem x List.mem_cons_self _ _ hclose hclean),
          bind_ok (skipPunctuator_of_head hclean.of_append.of_cons)]
        rfl
      | cons y ys =>
        obtain ⟨token, tail, hy, hfollows, hne'⟩ := hstart y (by simp)
        have hrest := ih (fun z hz => hitem z (List.mem_cons_of_mem _ hz))
          (fun z hz => hstart z (List.mem_cons_of_mem _ hz)) (List.cons_ne_nil _ _)
          (Nat.le_of_succ_le_succ hbound) hclean.of_append
        rw [List.flatMap_cons, hy] at hclean hrest ⊢
        simp only [List.cons_append] at hclean hrest ⊢
        rw [itemsUntil, bind_ok (hitem x List.mem_cons_self _ _ hfollows hclean),
          bind_ok (skipPunctuator_of_ne (by simpa using hne')), if_neg Bool.false_ne_true,
          bind_ok hrest]
        rfl

theorem StartsItems.ne_nil (h : StartsItems close spell Follows xs) : ∀ x ∈ xs, spell x ≠ [] := by
  intro x hx
  obtain ⟨token, tail, he, -⟩ := h x hx
  rw [he]
  exact List.cons_ne_nil token tail

/-- There are as many tokens left as there are items to read, which is the bound the readers take. -/
theorem length_le_flatMap (h : ∀ x ∈ xs, spell x ≠ []) :
    xs.length ≤ (xs.flatMap spell).length := by
  induction xs with
  | nil => simp
  | cons x xs ih =>
    have hpos := List.length_pos_iff.mpr (h x List.mem_cons_self)
    have hxs := ih fun z hz => h z (List.mem_cons_of_mem _ hz)
    rw [List.flatMap_cons, List.length_append, List.length_cons]
    omega

theorem items_ok (hitem : ReadsItems item spell Follows xs)
    (hstart : StartsItems close spell Follows xs) (hclose : Follows (.punctuator close))
    (hne : xs ≠ []) (hclean : Clean (xs.flatMap spell ++ .punctuator close :: rest)) :
    items close item (xs.flatMap spell ++ .punctuator close :: rest) = .ok (xs, rest) := by
  have hbound := length_le_flatMap hstart.ne_nil
  rw [items, bind_ok (place_apply _)]
  refine itemsUntil_ok hitem hstart hclose hne ?_ hclean
  rw [List.length_append]
  omega

theorem many_ok (hitem : ReadsItems item spell Follows xs)
    (hstart : StartsItems close spell Follows xs) (hclose : Follows (.punctuator close))
    (hne : xs ≠ []) (hclean : Clean (xs.flatMap spell ++ .punctuator close :: rest)) :
    many opening close item (.punctuator opening :: (xs.flatMap spell ++ .punctuator close :: rest)) =
      .ok (xs, rest) := by
  rw [many, bind_ok (expectPunctuator_of_head hclean)]
  exact items_ok hitem hstart hclose hne hclean

theorem any_ok (hitem : ReadsItems item spell Follows xs)
    (hstart : StartsItems close spell Follows xs) (hclose : Follows (.punctuator close))
    (hclean : Clean (xs.flatMap spell ++ .punctuator close :: rest)) :
    any opening close item (.punctuator opening :: (xs.flatMap spell ++ .punctuator close :: rest)) =
      .ok (xs, rest) := by
  rw [any, bind_ok (expectPunctuator_of_head hclean)]
  cases xs with
  | nil =>
    rw [List.flatMap_nil, List.nil_append] at hclean ⊢
    rw [bind_ok (skipPunctuator_of_head hclean.of_cons)]
    rfl
  | cons x xs =>
    obtain ⟨token, tail, hx, -, hne⟩ := hstart x List.mem_cons_self
    have hhead : ((x :: xs).flatMap spell ++ .punctuator close :: rest).head? ≠
        some (.punctuator close) := by
      simpa [List.flatMap_cons, hx] using hne
    rw [bind_ok (skipPunctuator_of_ne hhead), if_neg Bool.false_ne_true]
    exact items_ok hitem hstart hclose (List.cons_ne_nil _ _) hclean

theorem optionalMany_ok (hitem : ReadsItems item spell Follows xs)
    (hstart : StartsItems close spell Follows xs) (hclose : Follows (.punctuator close))
    (hempty : xs = [] → rest.head? ≠ some (.punctuator opening))
    (hclean : Clean (enclosed opening close (xs.map spell) ++ rest)) :
    optionalMany opening close item (enclosed opening close (xs.map spell) ++ rest) =
      .ok (xs, rest) := by
  cases xs with
  | nil =>
    rw [optionalMany]
    exact bind_ok (skipPunctuator_of_ne (hempty rfl))
  | cons x xs =>
    have he : enclosed opening close ((x :: xs).map spell) ++ rest =
        .punctuator opening :: ((x :: xs).flatMap spell ++ .punctuator close :: rest) := by
      simp [enclosed, List.flatMap_def]
    rw [he] at hclean ⊢
    rw [optionalMany, bind_ok (skipPunctuator_of_head hclean.of_cons), if_pos rfl]
    exact items_ok hitem hstart hclose (List.cons_ne_nil _ _) hclean.of_cons

end

end Parser

end QueryRegistry
