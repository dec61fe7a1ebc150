import QueryRegistry.Document.Printer
import QueryRegistry.Proofs.Document.BlockLayout
import QueryRegistry.Proofs.Text.Hexadecimal

/-! Quotations are read back from what is written for them: a quotation of one line by undoing its
escapes one after another, and a block by taking off what the layout has put around its text. -/

namespace QueryRegistry

theorem readCharacters_quote (rest : List Char) :
    readCharacters ('"' :: rest) = .ok ([], rest) := by
  rw [readCharacters]

theorem readCharacters_escape {text rest : List Char} {c : Char}
    (h : readEscape text = .ok (c, rest)) :
    readCharacters ('\\' :: text) = readAs (c :: ·) (readCharacters rest) := by
  rw [readCharacters]
  split
  next he => rw [h] at he; simp at he
  next he =>
    rw [h] at he
    obtain ⟨rfl, rfl⟩ := Prod.mk.inj (Except.ok.inj he)
    rfl

theorem readCharacters_plain {c : Char} (hq : c ≠ '"') (hs : c ≠ '\\')
    (hl : isLineEnd c = false) (rest : List Char) :
    readCharacters (c :: rest) = readAs (c :: ·) (readCharacters rest) := by
  rw [readCharacters]
  · simp [hl]
  · exact hq
  · exact hs

theorem readEscape_numbered {digits : List Char} {c : Char} (hlen : digits.length = 4)
    (hn : hexNumber? digits = some c.toNat) (rest : List Char) :
    readEscape ('u' :: (digits ++ rest)) = .ok (c, rest) := by
  rw [readEscape, readFixedEscape, numberedEscape?_append hlen hn]
  intro tail hbrace
  cases digits with
  | nil => simp at hlen
  | cons d digits =>
    obtain ⟨rfl, -⟩ := List.cons.inj hbrace
    simp [hexNumber?, hexDigit?] at hn

theorem readCharacters_quotedChar (c : Char) (rest : List Char) :
    readCharacters (quotedChar c ++ rest) = readAs (c :: ·) (readCharacters rest) := by
  fun_cases quotedChar c with
  | case1 => exact readCharacters_escape rfl
  | case2 => exact readCharacters_escape rfl
  | case3 => exact readCharacters_escape rfl
  | case4 => exact readCharacters_escape rfl
  | case5 => exact readCharacters_escape rfl
  | case6 => exact readCharacters_escape rfl
  | case7 => exact readCharacters_escape rfl
  | case8 _ _ _ _ _ _ _ _ hcontrol =>
    refine readCharacters_escape (readEscape_numbered (length_upperHexDigits 4 _) ?_ rest)
    simp only [Bool.or_eq_true, Bool.and_eq_true, decide_eq_true_eq] at hcontrol
    rw [hexNumber?_upperHexDigits, Nat.mod_eq_of_lt (by omega)]
  | case9 _ hq hs _ _ hn _ hr _ =>
    exact readCharacters_plain hq hs (isLineEnd_of_ne hn hr) rest

theorem readCharacters_flatMap_quotedChar (text rest : List Char) :
    readCharacters (text.flatMap quotedChar ++ '"' :: rest) = .ok (text, rest) := by
  induction text with
  | nil => exact readCharacters_quote rest
  | cons c text ih =>
    rw [List.flatMap_cons, List.append_assoc, readCharacters_quotedChar, ih]
    rfl

theorem not_mem_quotedChar (c : Char) : '\n' ∉ quotedChar c := by
  have hdigit : ∀ d < 16, '\n' ≠ (Nat.digitChar d).toUpper := by decide
  have hdigits : ∀ width n, '\n' ∉ upperHexDigits width n := by
    intro width
    induction width with
    | zero => simp [upperHexDigits, hexDigits]
    | succ width ih =>
      intro n
      rw [upperHexDigits, hexDigits, List.map_append, List.map_singleton, List.mem_append, not_or]
      exact ⟨ih (n / 16), by simpa using hdigit (n % 16) (Nat.mod_lt _ (by decide))⟩
  fun_cases quotedChar c with
  | case1 => decide
  | case2 => decide
  | case3 => decide
  | case4 => decide
  | case5 => decide
  | case6 => decide
  | case7 => decide
  | case8 => simpa using hdigits 4 _
  | case9 _ _ _ _ _ hn _ _ _ => simpa using hn ∘ Eq.symm

theorem quotedChar_eq_cons (c : Char) : ∃ d tail, quotedChar c = d :: tail ∧ d ≠ '"' := by
  fun_cases quotedChar c with
  | case1 => exact ⟨_, _, rfl, by decide⟩
  | case2 => exact ⟨_, _, rfl, by decide⟩
  | case3 => exact ⟨_, _, rfl, by decide⟩
  | case4 => exact ⟨_, _, rfl, by decide⟩
  | case5 => exact ⟨_, _, rfl, by decide⟩
  | case6 => exact ⟨_, _, rfl, by decide⟩
  | case7 => exact ⟨_, _, rfl, by decide⟩
  | case8 => exact ⟨_, _, rfl, by decide⟩
  | case9 _ hq _ _ _ _ _ _ _ => exact ⟨c, [], rfl, hq⟩

/-- A quotation of one line, unless a further quote makes its beginning that of a block. -/
theorem readQuotation_line {text rest : List Char} (hrest : rest.head? ≠ some '"') :
    readQuotation (text.flatMap quotedChar ++ '"' :: rest) =
      .ok (.quoted ⟨String.ofList text, false⟩, rest) := by
  rw [readQuotation, readCharacters_flatMap_quotedChar]
  · rfl
  · intro tail hquotes
    cases text with
    | nil =>
      obtain ⟨-, rfl⟩ := List.cons.inj hquotes
      exact hrest rfl
    | cons c text =>
      obtain ⟨d, tail', hc, hd⟩ := quotedChar_eq_cons c
      rw [List.flatMap_cons, hc] at hquotes
      exact hd (List.cons.inj hquotes).1

/-- A block, with the layout of a text between its quotes. -/
theorem readQuotation_block {raw : List Char} (h : EndsClear raw) (rest : List Char) :
    readQuotation ('"' :: '"' :: (escapeTripleQuotes raw ++ '"' :: '"' :: '"' :: rest)) =
      .ok (.quoted ⟨String.ofList (blockText raw), true⟩, rest) := by
  rw [readQuotation, readBlock_escapeTripleQuotes h]
  rfl

end QueryRegistry
