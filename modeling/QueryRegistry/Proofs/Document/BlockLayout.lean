import QueryRegistry.Proofs.Document.BlockText

/-! Writing a text between triple quotes. The characters written are those of a text which says the same
when it is read, with a backslash in front of each run of three quotes; and they are read up to the
closing quotes and no further, as nothing that the closing quotes would blur stands in front of them. -/

namespace QueryRegistry

/-! ### Escaped quotes -/

theorem escapeTripleQuotes_cons {c : Char} (hc : c ≠ '"') (text : List Char) :
    escapeTripleQuotes (c :: text) = c :: escapeTripleQuotes text := by
  rw [escapeTripleQuotes]
  rintro rest rfl
  exact absurd rfl hc

theorem escapeTripleQuotes_append {c : Char} (hc : c ≠ '"') (text rest : List Char) :
    escapeTripleQuotes (text ++ c :: rest) =
      escapeTripleQuotes text ++ c :: escapeTripleQuotes rest := by
  fun_induction escapeTripleQuotes text with
  | case1 => exact escapeTripleQuotes_cons hc rest
  | case2 text ih =>
    rw [List.cons_append, List.cons_append, List.cons_append, escapeTripleQuotes, ih]
    rfl
  | case3 d text hd ih =>
    rw [List.cons_append, escapeTripleQuotes, ih]
    · rfl
    · intro tail he ht
      match text, ht with
      | [], ht => simp [hc] at ht
      | [x], ht => simp [hc] at ht
      | x :: y :: text, ht =>
        simp only [List.cons_append, List.cons.injEq] at ht
        obtain ⟨rfl, rfl, -⟩ := ht
        exact hd text he rfl

/-- A quote at the head of an escaped text stood there before, and not with two more behind it. -/
theorem escapeTripleQuotes_eq_quote {text rest : List Char}
    (h : escapeTripleQuotes text = '"' :: rest) :
    ∃ tail, text = '"' :: tail ∧ rest = escapeTripleQuotes tail ∧
      ∀ more, tail ≠ '"' :: '"' :: more := by
  fun_cases escapeTripleQuotes text with
  | case1 => simp [escapeTripleQuotes] at h
  | case2 text => simp [escapeTripleQuotes] at h
  | case3 d text hd =>
    rw [escapeTripleQuotes] at h
    · obtain ⟨rfl, rfl⟩ := List.cons.inj h
      exact ⟨text, rfl, rfl, fun more hm => hd more rfl hm⟩
    · exact hd

theorem indentChars_eq_quote {text rest : List Char} (h : indentChars text = '"' :: rest) :
    ∃ tail, text = '"' :: tail ∧ rest = indentChars tail := by
  cases text with
  | nil => simp [indentChars] at h
  | cons c text =>
    by_cases hc : c = '\n'
    · subst hc
      rw [indentChars_newline] at h
      simp at h
    · rw [indentChars_cons hc] at h
      obtain ⟨rfl, rfl⟩ := List.cons.inj h
      exact ⟨text, rfl, rfl⟩

theorem escapeTripleQuotes_indentChars (text : List Char) :
    escapeTripleQuotes (indentChars text) = indentChars (escapeTripleQuotes text) := by
  fun_induction escapeTripleQuotes text with
  | case1 => rfl
  | case2 text ih =>
    rw [indentChars_cons (by decide), indentChars_cons (by decide), indentChars_cons (by decide),
      escapeTripleQuotes, ih, indentChars_cons (by decide), indentChars_cons (by decide),
      indentChars_cons (by decide), indentChars_cons (by decide)]
  | case3 d text hd ih =>
    by_cases hn : d = '\n'
    · subst hn
      rw [indentChars_newline, indentChars_newline, escapeTripleQuotes_cons (by decide),
        escapeTripleQuotes_cons (by decide), escapeTripleQuotes_cons (by decide), ih]
    · rw [indentChars_cons hn, indentChars_cons hn, escapeTripleQuotes, ih]
      intro tail he ht
      obtain ⟨next, rfl, hx⟩ := indentChars_eq_quote ht
      obtain ⟨more, rfl, hy⟩ := indentChars_eq_quote hx.symm
      exact hd more he rfl

/-! ### Reading up to the closing quotes -/

def EndsClear (text : List Char) : Prop :=
  ∀ c ∈ text.getLast?, c ≠ '"' ∧ c ≠ '\\'

theorem EndsClear.tail {c : Char} {text : List Char} (h : EndsClear (c :: text)) :
    EndsClear text := by
  intro d hd
  refine h d ?_
  rw [List.getLast?_cons, Option.mem_def.mp hd]
  rfl

theorem EndsClear.ne_nil {c : Char} {text : List Char} (h : EndsClear (c :: text))
    (hc : c = '"' ∨ c = '\\') : text ≠ [] := by
  rintro rfl
  have hh := h c rfl
  rcases hc with rfl | rfl <;> simp at hh

theorem EndsClear.indentChars {text : List Char} (h : EndsClear text) :
    EndsClear (indentChars text) := by
  rcases List.eq_nil_or_concat text with rfl | ⟨front, c, rfl⟩
  · exact h
  · have hc := h c (by simp)
    rw [List.concat_eq_append, indentChars_append]
    by_cases hn : c = '\n'
    · subst hn
      simp [EndsClear, QueryRegistry.indentChars]
    · rw [indentChars_cons hn]
      simpa [EndsClear, QueryRegistry.indentChars] using hc

theorem escapeTripleQuotes_ne_nil {text : List Char} (h : text ≠ []) :
    escapeTripleQuotes text ≠ [] := by
  fun_cases escapeTripleQuotes text with
  | case1 => exact absurd rfl h
  | case2 text => simp
  | case3 d text hd => simp

/-- Where a quote comes next in what is written, one comes next in the text. -/
theorem quote_of_append {text rest tail : List Char} (hne : text ≠ []) (h : EndsClear text)
    (he : escapeTripleQuotes text ++ rest = '"' :: tail) :
    ∃ more, text = '"' :: more ∧ more ≠ [] ∧ EndsClear more ∧
      tail = escapeTripleQuotes more ++ rest ∧ ∀ x, more ≠ '"' :: '"' :: x := by
  cases hs : escapeTripleQuotes text with
  | nil => exact absurd hs (escapeTripleQuotes_ne_nil hne)
  | cons d s =>
    rw [hs, List.cons_append] at he
    obtain ⟨rfl, rfl⟩ := List.cons.inj he
    obtain ⟨more, rfl, rfl, hx⟩ := escapeTripleQuotes_eq_quote hs
    exact ⟨more, rfl, h.ne_nil (.inl rfl), h.tail, rfl, hx⟩

theorem readBlock_cons {c : Char} {text : List Char}
    (hq : ∀ rest, c = '"' → text ≠ '"' :: '"' :: rest)
    (hb : ∀ rest, c = '\\' → text ≠ '"' :: '"' :: '"' :: rest) :
    readBlock (c :: text) = readAs (c :: ·) (readBlock text) := by
  rw [readBlock]
  · exact fun rest hc ht => hq rest hc ht
  · exact fun rest hc ht => hb rest hc ht

theorem readBlock_escapeTripleQuotes {text : List Char} (h : EndsClear text) (rest : List Char) :
    readBlock (escapeTripleQuotes text ++ '"' :: '"' :: '"' :: rest) = .ok (text, rest) := by
  fun_induction escapeTripleQuotes text with
  | case1 => rw [List.nil_append, readBlock]
  | case2 text ih =>
    simp only [List.cons_append]
    rw [readBlock, ih h.tail.tail.tail]
    rfl
  | case3 d text hd ih =>
    -- Were this the beginning of closing quotes or of an escape, the text would have three quotes here
    -- and be escaped, or would not end clear.
    rw [List.cons_append, readBlock_cons, ih h.tail]
    · rfl
    · rintro tail rfl ht
      obtain ⟨more, rfl, hne, hm, he, -⟩ := quote_of_append (h.ne_nil (.inl rfl)) h.tail ht
      obtain ⟨last, rfl, -⟩ := quote_of_append hne hm he.symm
      exact hd last rfl rfl
    · rintro tail rfl ht
      obtain ⟨more, rfl, hne, hm, he, hx⟩ := quote_of_append (h.ne_nil (.inr rfl)) h.tail ht
      obtain ⟨last, rfl, hne', hm', he', -⟩ := quote_of_append hne hm he.symm
      obtain ⟨end', rfl, -⟩ := quote_of_append hne' hm' he'.symm
      exact hx end' rfl

/-! ### The layout that is written -/

theorem count_newline_escapeTripleQuotes (text : List Char) :
    (escapeTripleQuotes text).count '\n' = text.count '\n' := by
  fun_induction escapeTripleQuotes text with
  | case1 => rfl
  | case2 text ih => simp [ih]
  | case3 c text _ ih => simp [List.count_cons, ih]

theorem not_mem_escapeTripleQuotes {text : List Char} (h : '\r' ∉ text) :
    '\r' ∉ escapeTripleQuotes text := by
  fun_induction escapeTripleQuotes text with
  | case1 => exact h
  | case2 text ih => simpa using ih fun hm => h (by simp [hm])
  | case3 c text _ ih =>
    rw [List.mem_cons, not_or] at h ⊢
    exact ⟨h.1, ih h.2⟩

theorem blockText_surrounded {lines : List (List Char)} {before after : List Char}
    (h : Settled lines)
    (hb : (before = [] ∧ lines.length ≤ 1) ∨
      (before = ['\n'] ∧ ∃ line ∈ lines, isBlankLine line = false ∧ indentWidth line = 0))
    (ha : after = [] ∨ after = ['\n']) :
    blockText (before ++ joinLines lines ++ after) = joinLines lines := by
  rcases List.eq_nil_or_concat lines with rfl | ⟨_, _, he⟩
  · rcases hb with ⟨rfl, -⟩ | ⟨rfl, line, hl, -⟩
    · rcases ha with rfl | rfl <;> rfl
    · simp at hl
  have hne : lines ≠ [] := by simp [he]
  obtain ⟨extra, hextra, hafter⟩ : ∃ extra, (extra = [] ∨ extra = [[]]) ∧
      joinLines lines ++ after = joinLines (lines ++ extra) := by
    rcases ha with rfl | rfl
    · exact ⟨[], .inl rfl, by simp⟩
    · exact ⟨[[]], .inr rfl, (joinLines_append_blank hne).symm⟩
  have hne' : lines ++ extra ≠ [] := by simp [hne]
  have hplain : PlainLines (lines ++ extra) := by
    intro line hl
    rcases List.mem_append.mp hl with hl | hl
    · exact h.plain line hl
    · rcases hextra with rfl | rfl
      · simp at hl
      · simp [List.mem_singleton.mp hl]
  have hlayout := dropBlankLines_layout h hextra
  rw [List.append_assoc, hafter]
  rcases hb with ⟨rfl, hlen⟩ | ⟨rfl, hflush⟩
  · rw [List.nil_append, blockText, splitLines_joinLines hne' hplain, hlayout.1 hlen]
  · rw [List.singleton_append, blockText, splitLines_newline, splitLines_joinLines hne' hplain,
      hlayout.2 hflush]

theorem flush_of_not_indented {line : List Char} (h : isBlankLine line = false)
    (hi : line.head?.any isIndent = false) : indentWidth line = 0 := by
  cases line with
  | nil => rfl
  | cons c rest =>
    have hc : isIndent c = false := by simpa using hi
    simp [indentWidth, hc]

theorem escapeTripleQuotes_surrounded {before after : List Char}
    (hb : before = [] ∨ before = ['\n']) (ha : after = [] ∨ after = ['\n']) (text : List Char) :
    escapeTripleQuotes (before ++ text ++ after) =
      before ++ escapeTripleQuotes text ++ after := by
  have hafter : ∀ front, escapeTripleQuotes (front ++ after) =
      escapeTripleQuotes front ++ after := by
    intro front
    rcases ha with rfl | rfl
    · simp
    · exact escapeTripleQuotes_append (by decide) front []
  rw [hafter]
  rcases hb with rfl | rfl
  · simp
  · rw [List.singleton_append, escapeTripleQuotes_cons (by decide), List.singleton_append]

theorem length_splitLines_escapeTripleQuotes {lines : List (List Char)} (hne : lines ≠ [])
    (h : PlainLines lines) :
    (splitLines (escapeTripleQuotes (joinLines lines))).length = lines.length := by
  have hr := not_mem_joinLines h
  rw [length_splitLines (not_mem_escapeTripleQuotes hr), count_newline_escapeTripleQuotes,
    ← length_splitLines hr, splitLines_joinLines hne h]

theorem length_of_needsLeadingBreak {lines : List (List Char)}
    (h : needsLeadingBreak lines = true) : 1 < lines.length := by
  simp only [needsLeadingBreak, Bool.and_eq_true, decide_eq_true_eq] at h
  exact h.1

/-- What the layout puts around a text. Nothing is put behind one that ends clear and is short, and a
single line that starts with blanks stands right behind the opening quotes. -/
theorem layOutBlock_eq (text : List Char) :
    ∃ before after, layOutBlock text = before ++ escapeTripleQuotes text ++ after ∧
      ((before = [] ∧ (splitLines (escapeTripleQuotes text)).length ≤ 1) ∨
        (before = ['\n'] ∧ (1 < (splitLines (escapeTripleQuotes text)).length ∨
          text.head?.any isIndent = false))) ∧
      ((after = [] ∧ before = [] ∧ EndsClear text) ∨ after = ['\n']) := by
  have hpos := List.length_pos_iff.mpr (splitLines_ne_nil (escapeTripleQuotes text))
  have hleading := @length_of_needsLeadingBreak (splitLines (escapeTripleQuotes text))
  rw [layOutBlock]
  generalize needsLeadingBreak (splitLines (escapeTripleQuotes text)) = leading at *
  generalize (splitLines (escapeTripleQuotes text)).length = count at *
  generalize ((escapeTripleQuotes text).reverse.take 4 == ['"', '"', '"', '\\']) = triple
  refine ⟨_, _, rfl, ?_, ?_⟩
  · split
    next hb =>
      refine .inr ⟨rfl, ?_⟩
      by_cases hcount : 1 < count
      · exact .inl hcount
      · have hone : count = 1 := by omega
        have hlead : leading = false := Bool.eq_false_iff.mpr fun h => hcount (hleading h)
        subst hone hlead
        simp only [Bool.or_false, Bool.and_eq_true, beq_self_eq_true, Bool.true_and] at hb
        exact .inr (by simpa using hb.2)
    next hb =>
      refine .inl ⟨rfl, Nat.le_of_not_lt fun hcount => hb ?_⟩
      have hone : (count == 1) = false := beq_false_of_ne (by omega)
      simp [hcount, hone]
  · split
    next ha => exact .inr rfl
    next ha =>
      simp only [Bool.or_eq_true, not_or, Bool.not_eq_true] at ha
      obtain ⟨⟨⟨⟨⟨hcount, hlong⟩, hquote, hslash⟩, hlead⟩, htriple⟩, -⟩ := ha
      subst hlead htriple
      simp only [Bool.not_false, Bool.and_true, beq_eq_false_iff_ne, ne_eq] at hquote hslash
      refine .inl ⟨rfl, ?_, ?_⟩
      · simp [hcount, hlong, hquote, hslash]
      · intro c hc
        rw [Option.mem_def.mp hc] at hquote hslash
        exact ⟨fun e => hquote (e ▸ rfl), fun e => hslash (e ▸ rfl)⟩

/-- What is written between the quotes reads as the text, and can be told from the quotes. -/
theorem exists_layOutBlock {text : List Char} (h : IsBlockText text) :
    ∃ raw, layOutBlock text = escapeTripleQuotes raw ∧ blockText raw = text ∧
      '\r' ∉ raw ∧ EndsClear raw := by
  obtain ⟨lines, hs, rfl⟩ := h
  by_cases hne : lines = []
  · subst hne
    exact ⟨[], rfl, rfl, by simp, by simp [EndsClear]⟩
  have hr := not_mem_joinLines hs.plain
  obtain ⟨before, after, he, hbefore, hafter⟩ := layOutBlock_eq (joinLines lines)
  rw [length_splitLines_escapeTripleQuotes hne hs.plain] at hbefore
  have hb : before = [] ∨ before = ['\n'] := hbefore.imp And.left And.left
  have ha : after = [] ∨ after = ['\n'] := hafter.imp_left And.left
  refine ⟨before ++ joinLines lines ++ after, ?_, ?_, ?_, ?_⟩
  · rw [he, escapeTripleQuotes_surrounded hb ha]
  · refine blockText_surrounded hs (hbefore.imp_right fun ⟨hnl, hcount⟩ => ⟨hnl, ?_⟩) ha
    rcases hcount with hcount | hindent
    · exact hs.flush hcount
    · match lines, hs with
      | [], _ => exact absurd rfl hne
      | [line], hs =>
        have hblank := hs.first line rfl
        exact ⟨line, List.mem_cons_self, hblank,
          flush_of_not_indented hblank (by simpa [joinLines] using hindent)⟩
      | _ :: _ :: _, hs => exact hs.flush (by simp)
  · rcases hb with rfl | rfl <;> rcases ha with rfl | rfl <;> simp [hr]
  · rcases hafter with ⟨rfl, rfl, hclear⟩ | rfl
    · simpa using hclear
    · simp [EndsClear]

end QueryRegistry
