import QueryRegistry.Proofs.Document.Quotation
import QueryRegistry.Proofs.Document.Word

/-! Texts that spell tokens: the tokens in their order, each as it is written, with ignored characters
between them wherever two of them would run together. A text that spells tokens is read as these
tokens, and still spells them when all of its lines are moved in. -/

namespace QueryRegistry

/-! ### The first character of a token -/

/-- A token, and no gap or comment, begins with the character. -/
def Begins (c : Char) : Prop := isIgnored c = false ∧ (c == '#') = false

theorem ofChar?_eq_none {c : Char} (h : isNamePart c = true ∨ c = '-') :
    Punctuator.ofChar? c = none := by
  fun_cases Punctuator.ofChar? c with
  | case14 => rfl
  | _ => exact absurd h (by decide)

theorem begins_of_goesOn {c : Char} (h : goesOn c = true ∨ c = '-') : Begins c := by
  constructor
  · refine Bool.eq_false_iff.mpr fun hi => ?_
    simp only [isIgnored, isLineEnd, Bool.or_eq_true, beq_iff_eq] at hi
    rcases hi with (((rfl | rfl) | rfl) | rfl) | rfl | rfl <;> exact absurd h (by decide)
  · refine beq_false_of_ne ?_
    rintro rfl
    exact absurd h (by decide)

theorem not_isDigit_of_isNameStart {c : Char} (h : isNameStart c = true) : isDigit c = false := by
  refine Bool.eq_false_iff.mpr fun hd => ?_
  simp only [isNameStart, isDigit, Bool.or_eq_true, Bool.and_eq_true, decide_eq_true_eq,
    beq_iff_eq, Char.le_def, UInt32.le_iff_toNat_le] at h hd
  rcases h with (⟨h, -⟩ | ⟨h, -⟩) | rfl
  · have hle := Nat.le_trans h hd.2
    exact absurd hle (by decide)
  · have hle := Nat.le_trans h hd.2
    exact absurd hle (by decide)
  · exact absurd hd.2 (by decide)

theorem readToken_name {c : Char} (h : isNameStart c = true) (rest : List Char) :
    readToken c rest = .ok (readName (c :: rest)) := by
  have hp := isNamePart_of_isNameStart h
  have hquote : (c == '"') = false := beq_false_of_ne (by rintro rfl; exact absurd h (by decide))
  have hminus : (c == '-') = false := beq_false_of_ne (by rintro rfl; exact absurd h (by decide))
  rw [readToken.eq_def, ofChar?_eq_none (.inl hp)]
  simp [hquote, hminus, not_isDigit_of_isNameStart h, h]

theorem readToken_number {c : Char} (h : isDigit c = true ∨ c = '-') (rest : List Char) :
    readToken c rest = readNumber (c :: rest) := by
  have hp : isNamePart c = true ∨ c = '-' := h.imp_left fun hd => by simp [isNamePart, hd]
  have hquote : (c == '"') = false := beq_false_of_ne (by rintro rfl; exact absurd h (by decide))
  have hnumber : (isDigit c || c == '-') = true := by simpa using h
  rw [readToken.eq_def, ofChar?_eq_none hp]
  simp [hquote, hnumber]

theorem readToken_quote (rest : List Char) : readToken '"' rest = readQuotation rest := rfl

/-! ### Words -/

/-- Nothing at the head of the text could belong to a word in front of it. -/
def Breaks (text : List Char) : Prop := Stops (fun c => goesOn c || c == '"') text

theorem Breaks.stops {text : List Char} (h : Breaks text) : Stops goesOn text :=
  h.mono fun c hc => by simp [hc]

theorem Breaks.head?_ne {text : List Char} (h : Breaks text) : text.head? ≠ some '"' := by
  intro he
  have hq := h '"' he
  simp at hq

theorem breaks_nil : Breaks [] := by simp [Breaks, Stops]

theorem breaks_cons {c : Char} (h : goesOn c = false) (hq : c ≠ '"') (text : List Char) :
    Breaks (c :: text) :=
  stops_cons (by simp [h, hq])

theorem breaks_of_isIgnored {c : Char} (h : isIgnored c = true) (text : List Char) :
    Breaks (c :: text) := by
  refine breaks_cons (Bool.eq_false_iff.mpr fun hg => ?_) ?_ text
  · rw [(begins_of_goesOn (.inl hg)).1] at h
    simp at h
  · rintro rfl
    exact absurd h (by decide)

/-- The way in which a token stands in a text, unless it is a punctuator. -/
inductive Written : Token → List Char → Prop where
  | name {word : List Char} (h : IsName word) : Written (.name (String.ofList word)) word
  | number (n : Numeral) : Written n.token n.text
  | line (text : List Char) :
    Written (.quoted ⟨String.ofList text, false⟩) ('"' :: (text.flatMap quotedChar ++ ['"']))
  | block {raw : List Char} (hr : '\r' ∉ raw) (hc : EndsClear raw) :
    Written (.quoted ⟨String.ofList (blockText raw), true⟩)
      ('"' :: '"' :: '"' :: (escapeTripleQuotes raw ++ ['"', '"', '"']))

theorem Numeral.text_eq_cons (n : Numeral) :
    ∃ c tail, n.text = c :: tail ∧ (isDigit c = true ∨ c = '-') := by
  obtain ⟨d, later, hd, hdigit⟩ := n.isWhole.exists_digit
  rcases n.isMinus with hm | hm
  · exact ⟨d, _, by rw [Numeral.text, hm, hd]; rfl, .inl hdigit⟩
  · exact ⟨'-', _, by rw [Numeral.text, hm]; rfl, .inr rfl⟩

/-- What is written for a token is read as that token. -/
theorem Written.readToken_eq {token : Token} {word : List Char} (h : Written token word) :
    ∃ c tail, word = c :: tail ∧ Begins c ∧
      ∀ rest, Breaks rest → readToken c (tail ++ rest) = .ok (token, rest) := by
  cases h with
  | name h =>
    obtain ⟨c, tail, rfl, hc, -⟩ := id h
    refine ⟨c, tail, rfl, begins_of_goesOn (.inl ?_), fun rest hr => ?_⟩
    · exact goesOn_of_isNamePart (isNamePart_of_isNameStart hc)
    · rw [readToken_name hc, ← List.cons_append,
        readName_append h (hr.stops.mono fun _ => goesOn_of_isNamePart)]
  | number n =>
    obtain ⟨c, tail, he, hc⟩ := n.text_eq_cons
    refine ⟨c, tail, he, begins_of_goesOn (hc.imp_left goesOn_of_isDigit), fun rest hr => ?_⟩
    rw [readToken_number hc, ← List.cons_append, ← he, readNumber_append n hr.stops]
  | line text =>
    refine ⟨'"', _, rfl, ⟨by decide, by decide⟩, fun rest hr => ?_⟩
    rw [readToken_quote, List.append_assoc, List.singleton_append, readQuotation_line hr.head?_ne]
  | block hr hc =>
    refine ⟨'"', _, rfl, ⟨by decide, by decide⟩, fun rest _ => ?_⟩
    rw [readToken_quote]
    simp only [List.cons_append, List.append_assoc, List.nil_append]
    rw [readQuotation_block hc]

theorem Written.ne_unreadable {token : Token} {word : List Char} (h : Written token word)
    (fault : LexicalFault) : token ≠ .unreadable fault := by
  cases h with
  | number n =>
    rw [Numeral.token]
    split <;> simp
  | _ => simp

theorem IsDigits.not_mem_newline {digits : List Char} (h : IsDigits digits) : '\n' ∉ digits :=
  fun hm => absurd (h.2 _ hm) (by decide)

theorem Numeral.not_mem_newline (n : Numeral) : '\n' ∉ n.text := by
  have hminus : '\n' ∉ n.minus := by rcases n.isMinus with hm | hm <;> simp [hm]
  have hwhole : '\n' ∉ n.whole := by
    rcases n.isWhole with hw | ⟨hd, -⟩
    · simp [hw]
    · exact hd.not_mem_newline
  have hfraction : '\n' ∉ n.fraction := by
    rcases n.isFraction with hf | ⟨digits, hd, hf⟩
    · simp [hf]
    · simp [hf, hd.not_mem_newline]
  have hexponent : '\n' ∉ n.exponent := by
    rcases n.isExponent with he | ⟨mark, sign, digits, hm, hs, hd, he⟩
    · simp [he]
    · have hmark : '\n' ≠ mark := by rintro rfl; exact absurd hm (by decide)
      have hsign : '\n' ∉ sign := by
        rcases hs with rfl | ⟨c, hc, rfl⟩
        · simp
        · simp only [List.mem_singleton]
          rintro rfl
          exact absurd hc (by decide)
      simp [he, hmark, hsign, hd.not_mem_newline]
  simp [Numeral.text, hminus, hwhole, hfraction, hexponent]

/-- A word still stands for its token when its lines are moved in, since a block says the same. -/
theorem Written.indent {token : Token} {word : List Char} (h : Written token word) :
    Written token (indentChars word) := by
  cases h with
  | name h =>
    have hn : '\n' ∉ word := fun hm => absurd (h.isNamePart _ hm) (by decide)
    rw [indentChars_of_not_mem hn]
    exact .name h
  | number n =>
    rw [indentChars_of_not_mem n.not_mem_newline]
    exact .number n
  | line text =>
    have hn : '\n' ∉ '"' :: (text.flatMap quotedChar ++ ['"']) := by
      simpa using fun c _ => not_mem_quotedChar c
    rw [indentChars_of_not_mem hn]
    exact .line text
  | @block raw hr hc =>
    have he : indentChars ('"' :: '"' :: '"' :: (escapeTripleQuotes raw ++ ['"', '"', '"'])) =
        '"' :: '"' :: '"' :: (escapeTripleQuotes (indentChars raw) ++ ['"', '"', '"']) := by
      rw [indentChars_cons (by decide), indentChars_cons (by decide), indentChars_cons (by decide),
        indentChars_append, escapeTripleQuotes_indentChars]
      rfl
    rw [he, ← blockText_indentChars hr]
    refine .block (fun hm => ?_) hc.indentChars
    rcases mem_indentChars hm with hm | hm
    · exact absurd hm (by decide)
    · exact hr hm

/-! ### Texts -/

/-- The text spells the tokens one after another. -/
inductive Spells : List Char → List Token → Prop where
  | nil : Spells [] []
  | gap {c : Char} {text : List Char} {tokens : List Token} (hc : isIgnored c = true)
    (h : Spells text tokens) : Spells (c :: text) tokens
  | punctuator (p : Punctuator) {text : List Char} {tokens : List Token} (h : Spells text tokens) :
    Spells (p.text.toList ++ text) (.punctuator p :: tokens)
  | word {token : Token} {word text : List Char} {tokens : List Token} (hw : Written token word)
    (hb : Breaks text) (h : Spells text tokens) : Spells (word ++ text) (token :: tokens)

theorem Written.spells {token : Token} {word : List Char} (h : Written token word) :
    Spells word [token] := by
  have hs := Spells.word h breaks_nil .nil
  rwa [List.append_nil] at hs

theorem Written.ne_nil {token : Token} {word : List Char} (h : Written token word) :
    word ≠ [] := by
  obtain ⟨c, tail, rfl, -⟩ := h.readToken_eq
  exact List.cons_ne_nil _ _

theorem Punctuator.exists_char (p : Punctuator) :
    ∃ c tail, p.text.toList = c :: tail ∧ Begins c ∧
      ∀ rest, readToken c (tail ++ rest) = .ok (.punctuator p, rest) := by
  cases p <;> exact ⟨_, _, rfl, ⟨by decide, by decide⟩, fun _ => rfl⟩

theorem Punctuator.not_mem_newline (p : Punctuator) : '\n' ∉ p.text.toList := by
  cases p <;> decide

namespace Spells

variable {text more : List Char} {tokens others : List Token}

theorem append (h : Spells text tokens) (hb : Breaks more) (hm : Spells more others) :
    Spells (text ++ more) (tokens ++ others) := by
  induction h with
  | nil => exact hm
  | gap hc _ ih => exact .gap hc ih
  | punctuator p _ ih =>
    rw [List.append_assoc]
    exact .punctuator p ih
  | @word token word text tokens hw hb' _ ih =>
    rw [List.append_assoc]
    refine .word hw ?_ ih
    cases text with
    | nil => exact hb
    | cons c text => exact stops_cons (hb' c rfl)

theorem gaps {gap : List Char} (hg : gap.all isIgnored = true) (h : Spells text tokens) :
    Spells (gap ++ text) tokens := by
  induction gap with
  | nil => exact h
  | cons c gap ih =>
    rw [List.all_cons, Bool.and_eq_true] at hg
    exact .gap hg.1 (ih hg.2)

theorem tokens_eq_nil (h : Spells [] tokens) : tokens = [] := by
  generalize he : ([] : List Char) = text at h
  cases h with
  | nil => rfl
  | gap hc h => simp at he
  | punctuator p h =>
    obtain ⟨c, tail, hp, -⟩ := p.exists_char
    simp [hp] at he
  | word hw hb h => exact absurd (List.append_eq_nil_iff.mp he.symm).1 hw.ne_nil

theorem ne_nil (h : Spells text tokens) (ht : tokens ≠ []) : text ≠ [] := by
  rintro rfl
  exact ht h.tokens_eq_nil

theorem breaks_indentChars (h : Breaks text) : Breaks (indentChars text) := by
  cases text with
  | nil => exact h
  | cons c text =>
    by_cases hn : c = '\n'
    · subst hn
      exact breaks_cons (by decide) (by decide) _
    · rw [indentChars_cons hn]
      exact stops_cons (h c rfl)

/-- Moving in the lines of a text puts more blanks into its gaps and changes no token. -/
theorem indent (h : Spells text tokens) : Spells (indentChars text) tokens := by
  induction h with
  | nil => exact .nil
  | @gap c text tokens hc _ ih =>
    by_cases hn : c = '\n'
    · subst hn
      exact .gap (by decide) (.gap (by decide) (.gap (by decide) ih))
    · rw [indentChars_cons hn]
      exact .gap hc ih
  | punctuator p _ ih =>
    rw [indentChars_append, indentChars_of_not_mem p.not_mem_newline]
    exact .punctuator p ih
  | word hw hb _ ih =>
    rw [indentChars_append]
    exact .word hw.indent (breaks_indentChars hb) ih

theorem ne_unreadable (h : Spells text tokens) (fault : LexicalFault) :
    .unreadable fault ∉ tokens := by
  induction h with
  | nil => simp
  | gap _ _ ih => exact ih
  | punctuator p _ ih => simpa using ih
  | word hw _ _ ih =>
    rw [List.mem_cons, not_or]
    exact ⟨(hw.ne_unreadable fault).symm, ih⟩

end Spells

/-! ### Reading the tokens back -/

theorem dropIgnored_of_begins {c : Char} (h : Begins c) (rest : List Char) :
    dropIgnored false (c :: rest) = c :: rest := by
  have hl : isLineEnd c = false := by
    have hi := h.1
    simp only [isIgnored, Bool.or_eq_false_iff] at hi
    exact hi.2
  simp [dropIgnored, hl, h.1, h.2]

theorem dropIgnored_gap {c : Char} (h : isIgnored c = true) (rest : List Char) :
    dropIgnored false (c :: rest) = dropIgnored false rest := by
  simp [dropIgnored, h]

theorem lexemes_eq_nil {text : List Char} (h : dropIgnored false text = []) :
    lexemes text = [] := by
  rw [lexemes]
  split
  · rfl
  next hi => rw [h] at hi; simp at hi

theorem lexemes_eq_cons {c : Char} {text rest : List Char} (h : dropIgnored false text = c :: rest) :
    lexemes text = match readToken c rest with
      | .ok (token, rest') => ⟨token, c :: rest⟩ :: lexemes rest'
      | .error stuck => [⟨.unreadable stuck.fault, stuck.rest⟩] := by
  rw [lexemes]
  split
  next hi => rw [h] at hi; simp at hi
  next d rest' hi =>
    rw [h] at hi
    obtain ⟨rfl, rfl⟩ := List.cons.inj hi
    split
    next ht => simp only [ht]
    next ht => simp only [ht]

theorem lexemes_congr {text text' : List Char}
    (h : dropIgnored false text = dropIgnored false text') : lexemes text = lexemes text' := by
  cases hs : dropIgnored false text' with
  | nil => rw [lexemes_eq_nil hs, lexemes_eq_nil (h.trans hs)]
  | cons d rest => rw [lexemes_eq_cons hs, lexemes_eq_cons (h.trans hs)]

theorem lexemes_gap {c : Char} (h : isIgnored c = true) (text : List Char) :
    lexemes (c :: text) = lexemes text :=
  lexemes_congr (dropIgnored_gap h text)

theorem lexemes_token {c : Char} {text rest : List Char} {token : Token} (hc : Begins c)
    (ht : readToken c text = .ok (token, rest)) :
    lexemes (c :: text) = ⟨token, c :: text⟩ :: lexemes rest := by
  rw [lexemes_eq_cons (dropIgnored_of_begins hc text), ht]

theorem Spells.lexemes_eq {text : List Char} {tokens : List Token} (h : Spells text tokens) :
    (lexemes text).map Lexeme.token = tokens := by
  induction h with
  | nil => rw [lexemes_eq_nil rfl, List.map_nil]
  | gap hc _ ih => rw [lexemes_gap hc, ih]
  | @punctuator p text tokens _ ih =>
    obtain ⟨c, tail, he, hc, hread⟩ := p.exists_char
    rw [he, List.cons_append, lexemes_token hc (hread text), List.map_cons, ih]
  | @word token word text tokens hw hb _ ih =>
    obtain ⟨c, tail, rfl, hc, hread⟩ := hw.readToken_eq
    rw [List.cons_append, lexemes_token hc (hread text hb), List.map_cons, ih]

theorem Spells.unique {text : List Char} {tokens others : List Token} (h : Spells text tokens)
    (ho : Spells text others) : tokens = others := by
  rw [← h.lexemes_eq, ho.lexemes_eq]

/-! ### Tokens of a text -/

/-- The token has words or digits that a text can have, if it has any. -/
def Token.Sound : Token → Prop
  | .name text => IsName text.toList
  | .int digits => ∃ n : Numeral, n.token = .int digits
  | .float digits => ∃ n : Numeral, n.token = .float digits
  | .quoted quotation => quotation.block = true → IsBlockText quotation.text.toList
  | _ => True

theorem Numeral.sound_token (n : Numeral) : n.token.Sound := by
  cases h : n.token with
  | int digits => exact ⟨n, h⟩
  | float digits => exact ⟨n, h⟩
  | _ =>
    rw [Numeral.token] at h
    split at h <;> simp at h

theorem sound_of_readQuotation {text rest : List Char} {token : Token}
    (h : readQuotation text = .ok (token, rest)) : token.Sound := by
  rw [readQuotation.eq_def] at h
  split at h
  · obtain ⟨raw, -, rfl⟩ := readAs_eq_ok.mp h
    intro _
    rw [String.toList_ofList]
    exact isBlockText_blockText raw
  · obtain ⟨cs, -, rfl⟩ := readAs_eq_ok.mp h
    intro hb
    exact absurd hb Bool.false_ne_true

theorem sound_of_readToken {c : Char} {text rest : List Char} {token : Token}
    (h : readToken c text = .ok (token, rest)) : token.Sound := by
  rw [readToken.eq_def] at h
  split at h
  · obtain ⟨rfl, -⟩ := Prod.mk.inj (Except.ok.inj h)
    trivial
  · split at h
    · exact sound_of_readQuotation h
    · split at h
      · obtain ⟨n, rfl, -⟩ := exists_numeral_of_readNumber h
        exact n.sound_token
      · split at h
        next hs =>
          obtain ⟨rfl, -⟩ := Prod.mk.inj (Except.ok.inj h)
          rw [Token.Sound, String.toList_ofList]
          exact isName_takeWhile hs text
        · split at h
          · obtain ⟨rfl, -⟩ := Prod.mk.inj (Except.ok.inj h)
            trivial
          · simp at h
          · simp at h

theorem sound_of_mem_lexemes (text : List Char) : ∀ lexeme ∈ lexemes text, lexeme.token.Sound := by
  fun_induction lexemes text with
  | case1 text hi => simp
  | case2 text c rest hi token rest' ht ih =>
    intro lexeme hl
    rcases List.mem_cons.mp hl with rfl | hl
    · exact sound_of_readToken ht
    · exact ih lexeme hl
  | case3 text c rest hi stuck ht =>
    intro lexeme hl
    obtain rfl := List.mem_singleton.mp hl
    trivial

end QueryRegistry
