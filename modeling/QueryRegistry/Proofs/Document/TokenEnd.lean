import QueryRegistry.Proofs.Document.Spelling

/-! Where a token ends. A reader of tokens looks at most one character beyond what it takes, and only to
see whether that one could belong to the token as well. So it takes the same again when another text
stands behind, if that goes on with the same character or with one that belongs to no word. -/

namespace QueryRegistry

/-- The reader reads `a` from the characters taken, whatever is left behind them. -/
def Takes {ε α : Type} (read : List Char → Except ε (α × List Char)) (taken : List Char) (a : α) :
    Prop :=
  ∀ rest, read (taken ++ rest) = .ok (a, rest)

theorem Takes.ne_nil {ε α : Type} {read : List Char → Except ε (α × List Char)} {taken : List Char}
    {a : α} {error : ε} (h : Takes read taken a) (hnil : read [] = .error error) : taken ≠ [] := by
  rintro rfl
  have hread := h []
  rw [List.append_nil, hnil] at hread
  simp at hread

/-! ### Quotations -/

section

variable {text rest : List Char} {c : Char}

theorem takes_of_readFixedEscape (h : readFixedEscape text = .ok (c, rest)) :
    ∃ taken, text = taken ++ rest ∧ Takes readFixedEscape taken c := by
  rw [readFixedEscape] at h
  split at h
  next read hread =>
    obtain rfl := Except.ok.inj h
    obtain ⟨taken, htext, htaken⟩ := exists_taken_of_numberedEscape? hread
    exact ⟨taken, htext, fun rest' => by rw [readFixedEscape, htaken]⟩
  · simp at h

theorem takes_of_readBracedEscape (h : readBracedEscape text = .ok (c, rest)) :
    ∃ taken, text = taken ++ rest ∧ Takes readBracedEscape taken c := by
  rw [readBracedEscape] at h
  have hhex : ∀ d ∈ (text.take 9).takeWhile isHexDigit, isHexDigit d = true :=
    List.all_eq_true.mp List.all_takeWhile
  have hprefix : (text.take 9).takeWhile isHexDigit <+: text :=
    (List.takeWhile_prefix _).trans (List.take_prefix 9 text)
  generalize (text.take 9).takeWhile isHexDigit = digits at *
  split at h
  next later hdrop =>
    split at h
    · simp at h
    next hsize =>
      split at h
      next d hd =>
        obtain ⟨rfl, rfl⟩ := Prod.mk.inj (Except.ok.inj h)
        refine ⟨digits ++ ['\x7d'], ?_, fun rest' => ?_⟩
        · rw [List.append_assoc, List.singleton_append, ← hdrop]
          exact (List.prefix_iff_eq_append.mp hprefix).symm
        · have hlen : digits.length ≤ 8 := by
            simp only [Bool.or_eq_true, decide_eq_true_eq, not_or] at hsize
            omega
          have htake : ((digits ++ '\x7d' :: rest').take 9).takeWhile isHexDigit = digits := by
            obtain ⟨k, hk⟩ : ∃ k, 9 - digits.length = k + 1 := ⟨8 - digits.length, by omega⟩
            rw [List.take_append, List.take_of_length_le (by omega), hk, List.take_succ_cons]
            exact takeWhile_of_stops hhex (stops_cons (by decide))
          rw [List.append_assoc, List.singleton_append, readBracedEscape]
          simp only [htake, List.drop_left, hsize, hd]
          rfl
      · simp at h
  · simp at h

theorem takes_of_readEscape (h : readEscape text = .ok (c, rest)) :
    ∃ taken, text = taken ++ rest ∧ Takes readEscape taken c := by
  rw [readEscape.eq_def] at h
  split at h
  · simp at h
  next later =>
    obtain ⟨taken, rfl, htaken⟩ := takes_of_readBracedEscape h
    exact ⟨'u' :: '\x7b' :: taken, rfl, htaken⟩
  next later hbrace =>
    obtain ⟨taken, rfl, htaken⟩ := takes_of_readFixedEscape h
    refine ⟨'u' :: taken, rfl, fun rest' => ?_⟩
    obtain ⟨d, tail, rfl⟩ := List.exists_cons_of_ne_nil (htaken.ne_nil rfl)
    rw [List.cons_append, readEscape]
    · exact htaken rest'
    · rintro more hmore
      obtain ⟨rfl, -⟩ := List.cons.inj hmore
      exact hbrace _ rfl
  next d later hbrace hu =>
    split at h
    next e he =>
      obtain ⟨rfl, rfl⟩ := Prod.mk.inj (Except.ok.inj h)
      refine ⟨[d], rfl, fun rest' => ?_⟩
      rw [List.singleton_append, readEscape]
      · simp only [he]
      · exact fun more hd => absurd hd hu
      · exact hu
    · simp at h

theorem takes_of_readCharacters {cs : List Char} (h : readCharacters text = .ok (cs, rest)) :
    ∃ taken, text = taken ++ rest ∧ Takes readCharacters taken cs := by
  fun_induction readCharacters text generalizing cs with
  | case1 => simp at h
  | case2 later =>
    obtain ⟨rfl, rfl⟩ := Prod.mk.inj (Except.ok.inj h)
    exact ⟨['"'], rfl, readCharacters_quote⟩
  | case3 => simp at h
  | case4 later c later' he ih =>
    obtain ⟨ds, hread, rfl⟩ := readAs_eq_ok.mp h
    obtain ⟨escape, rfl, hescape⟩ := takes_of_readEscape he
    obtain ⟨taken, rfl, htaken⟩ := ih hread
    refine ⟨'\\' :: (escape ++ taken), by simp, fun rest' => ?_⟩
    rw [List.cons_append, List.append_assoc, readCharacters_escape (hescape _), htaken]
    rfl
  | case5 => simp at h
  | case6 c later hq hs hl ih =>
    obtain ⟨ds, hread, rfl⟩ := readAs_eq_ok.mp h
    obtain ⟨taken, rfl, htaken⟩ := ih hread
    refine ⟨c :: taken, rfl, fun rest' => ?_⟩
    rw [List.cons_append, readCharacters_plain hq hs (Bool.eq_false_iff.mpr hl), htaken]
    rfl

/-- The closing quotes are part of what is taken, so that the three characters behind any other one are
too, and no quotes or escape can come about by what is put behind. -/
theorem takes_of_readBlock {raw : List Char} (h : readBlock text = .ok (raw, rest)) :
    ∃ taken, text = taken ++ rest ∧ 3 ≤ taken.length ∧ Takes readBlock taken raw := by
  fun_induction readBlock text generalizing raw with
  | case1 => simp at h
  | case2 later =>
    obtain ⟨rfl, rfl⟩ := Prod.mk.inj (Except.ok.inj h)
    exact ⟨['"', '"', '"'], rfl, Nat.le_refl 3, fun _ => rfl⟩
  | case3 later ih =>
    obtain ⟨cs, hread, rfl⟩ := readAs_eq_ok.mp h
    obtain ⟨taken, rfl, hlen, htaken⟩ := ih hread
    refine ⟨'\\' :: '"' :: '"' :: '"' :: taken, rfl, by simp, fun rest' => ?_⟩
    simp only [List.cons_append]
    rw [readBlock, htaken]
    rfl
  | case4 c later hq hb ih =>
    obtain ⟨cs, hread, rfl⟩ := readAs_eq_ok.mp h
    obtain ⟨taken, rfl, hlen, htaken⟩ := ih hread
    refine ⟨c :: taken, rfl, by simp; omega, fun rest' => ?_⟩
    obtain ⟨x, y, z, tail, rfl⟩ : ∃ x y z tail, taken = x :: y :: z :: tail := by
      rcases taken with _ | ⟨x, _ | ⟨y, _ | ⟨z, tail⟩⟩⟩
      · simp at hlen
      · simp at hlen
      · simp at hlen
      · exact ⟨x, y, z, tail, rfl⟩
    rw [List.cons_append, readBlock_cons, htaken]
    · rfl
    · rintro more hc hmore
      simp only [List.cons_append, List.cons.injEq] at hmore
      obtain ⟨rfl, rfl, -⟩ := hmore
      exact hq _ hc rfl
    · rintro more hc hmore
      simp only [List.cons_append, List.cons.injEq] at hmore
      obtain ⟨rfl, rfl, rfl, -⟩ := hmore
      exact hb _ hc rfl

end

/-! ### Tokens -/

/-- The text that stands behind a token goes on as another did, or with nothing of a word. -/
def GoesOnAlike (rest rest' : List Char) : Prop := rest'.head? = rest.head? ∨ Breaks rest'

section

variable {text rest : List Char} {token : Token}

theorem GoesOnAlike.stops {rest' : List Char} {kind : Char → Bool} (h : GoesOnAlike rest rest')
    (hs : Stops kind rest) (hkind : ∀ c, kind c = true → (goesOn c || c == '"') = true) :
    Stops kind rest' := by
  rcases h with hhead | hbreaks
  · intro c hc
    exact hs c (hhead ▸ hc)
  · exact hbreaks.mono hkind

theorem readQuotation_alike (h : readQuotation text = .ok (token, rest)) :
    ∃ taken, text = taken ++ rest ∧
      ∀ rest', GoesOnAlike rest rest' → readQuotation (taken ++ rest') = .ok (token, rest') := by
  rw [readQuotation.eq_def] at h
  split at h
  · obtain ⟨raw, hread, rfl⟩ := readAs_eq_ok.mp h
    obtain ⟨taken, rfl, -, htaken⟩ := takes_of_readBlock hread
    refine ⟨'"' :: '"' :: taken, rfl, fun rest' _ => ?_⟩
    rw [List.cons_append, List.cons_append, readQuotation, htaken]
    rfl
  next hline =>
    obtain ⟨cs, hread, rfl⟩ := readAs_eq_ok.mp h
    obtain ⟨taken, rfl, htaken⟩ := takes_of_readCharacters hread
    refine ⟨taken, rfl, fun rest' halike => ?_⟩
    obtain ⟨x, tail, rfl⟩ := List.exists_cons_of_ne_nil (htaken.ne_nil (by rw [readCharacters]))
    rw [readQuotation, htaken]
    · rfl
    · rintro more hquotes
      rw [List.cons_append, List.cons.injEq] at hquotes
      obtain ⟨rfl, htail⟩ := hquotes
      cases tail with
      | nil =>
        -- The empty quotation is the one token that a quote behind it would change.
        have hstops : Stops (· == '"') rest := fun d hd => beq_false_of_ne fun he => by
          obtain ⟨later, rfl⟩ := List.head?_eq_some_iff.mp (he ▸ hd)
          exact hline later rfl
        have hquote : Stops (· == '"') rest' := halike.stops hstops fun d hd => by simp [hd]
        rw [List.nil_append] at htail
        subst htail
        exact absurd (hquote '"' rfl) (by simp)
      | cons y tail =>
        obtain ⟨rfl, -⟩ := List.cons.inj htail
        exact hline _ rfl

/-- A token is read from the same characters again, if what stands behind it goes on alike. -/
theorem readToken_alike {c : Char} (h : readToken c text = .ok (token, rest)) :
    ∃ tail, text = tail ++ rest ∧
      ∀ rest', GoesOnAlike rest rest' → readToken c (tail ++ rest') = .ok (token, rest') := by
  rw [readToken.eq_def] at h
  split at h
  next p hp =>
    obtain ⟨rfl, rfl⟩ := Prod.mk.inj (Except.ok.inj h)
    refine ⟨[], rfl, fun rest' _ => ?_⟩
    rw [readToken.eq_def, hp]
    rfl
  next hp =>
    split at h
    next hq =>
      obtain rfl := beq_iff_eq.mp hq
      obtain ⟨taken, rfl, htaken⟩ := readQuotation_alike h
      exact ⟨taken, rfl, htaken⟩
    · split at h
      next hnumber =>
        obtain ⟨n, rfl, htext, hstops⟩ := exists_numeral_of_readNumber h
        obtain ⟨d, tail, hd, hfirst⟩ := n.text_eq_cons
        rw [hd, List.cons_append] at htext
        obtain ⟨rfl, rfl⟩ := List.cons.inj htext
        refine ⟨tail, rfl, fun rest' halike => ?_⟩
        have hstops' : Stops goesOn rest' := halike.stops hstops fun e he => by simp [he]
        rw [readToken_number hfirst, ← List.cons_append, ← hd, readNumber_append n hstops']
      · split at h
        next hs =>
          have hpart := isNamePart_of_isNameStart hs
          obtain ⟨rfl, rfl⟩ := Prod.mk.inj (Except.ok.inj h)
          refine ⟨text.takeWhile isNamePart, ?_, fun rest' halike => ?_⟩
          · rw [List.dropWhile_cons_of_pos hpart, List.takeWhile_append_dropWhile]
          · have hstops' : Stops isNamePart rest' :=
              halike.stops (stops_dropWhile _) fun d hd => by simp [goesOn_of_isNamePart hd]
            rw [readToken_name hs, ← List.cons_append, ← List.takeWhile_cons_of_pos hpart,
              readName_append (isName_takeWhile hs text) hstops']
        · split at h
          · obtain ⟨rfl, rfl⟩ := Prod.mk.inj (Except.ok.inj h)
            exact ⟨['.', '.'], rfl, fun _ _ => rfl⟩
          · simp at h
          · simp at h

end

end QueryRegistry
