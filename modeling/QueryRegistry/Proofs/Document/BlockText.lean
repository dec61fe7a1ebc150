import Mathlib.Data.List.DropRight
import QueryRegistry.Document.Lexer
import QueryRegistry.Proofs.Text.Lines

/-! Text between triple quotes comes back. What a block of lines says does not change when blanks are
put in front of its lines, as happens to it in each selection set around it; and the text of a block is
written in such a way that reading it strips off just what the writing has put around it. -/

namespace QueryRegistry

/-! ### Blank lines and the shared indent -/

theorem indentWidth_indent (line : List Char) :
    indentWidth ([' ', ' '] ++ line) = indentWidth line + 2 := rfl

theorem sharedIndent_of_blank {lines : List (List Char)}
    (h : ∀ line ∈ lines, isBlankLine line = true) : sharedIndent lines = 0 := by
  have hf : lines.filter (!isBlankLine ·) = [] := by
    refine List.filter_eq_nil_iff.mpr fun line hl => ?_
    simp [h line hl]
  rw [sharedIndent, hf]
  rfl

theorem sharedIndent_eq {lines : List (List Char)} {line : List Char} (hl : line ∈ lines)
    (hb : isBlankLine line = false)
    (hle : ∀ other ∈ lines, isBlankLine other = false → indentWidth line ≤ indentWidth other) :
    sharedIndent lines = indentWidth line := by
  have hm : ((lines.filter (!isBlankLine ·)).map indentWidth).min? = some (indentWidth line) := by
    refine List.min?_eq_some_iff.mpr ⟨?_, fun n hn => ?_⟩
    · exact List.mem_map_of_mem (List.mem_filter.mpr ⟨hl, by simp [hb]⟩)
    · obtain ⟨other, ho, rfl⟩ := List.mem_map.mp hn
      obtain ⟨ho, hb'⟩ := List.mem_filter.mp ho
      exact hle other ho (by simpa using hb')
  rw [sharedIndent, hm]
  rfl

theorem sharedIndent_le {lines : List (List Char)} {line : List Char} (hl : line ∈ lines)
    (hb : isBlankLine line = false) : sharedIndent lines ≤ indentWidth line := by
  have hf : line ∈ lines.filter (!isBlankLine ·) := List.mem_filter.mpr ⟨hl, by simp [hb]⟩
  have hm := List.mem_map_of_mem (f := indentWidth) hf
  obtain ⟨n, hn⟩ := Option.isSome_iff_exists.mp (List.isSome_min?_of_mem hm)
  rw [sharedIndent, hn]
  exact (List.min?_eq_some_iff.mp hn).2 _ hm

theorem exists_sharedIndent {lines : List (List Char)}
    (h : ∃ line ∈ lines, isBlankLine line = false) :
    ∃ line ∈ lines, isBlankLine line = false ∧ indentWidth line = sharedIndent lines := by
  have hne : ((lines.filter (!isBlankLine ·)).map indentWidth) ≠ [] := by
    obtain ⟨line, hl, hb⟩ := h
    simp only [ne_eq, List.map_eq_nil_iff, List.filter_eq_nil_iff, not_forall]
    exact ⟨line, hl, by simp [hb]⟩
  obtain ⟨n, hn⟩ := Option.isSome_iff_exists.mp (List.isSome_min?_of_ne_nil hne)
  obtain ⟨line, hl, hw⟩ := List.mem_map.mp (List.min?_mem hn)
  obtain ⟨hl, hb⟩ := List.mem_filter.mp hl
  refine ⟨line, hl, by simpa using hb, ?_⟩
  rw [sharedIndent, hn, hw]
  rfl

theorem dropBlankLines_append_blank {lines blanks : List (List Char)}
    (h : ∀ line ∈ blanks, isBlankLine line = true) :
    dropBlankLines (lines ++ blanks) = dropBlankLines lines := by
  have hb : blanks.dropWhile isBlankLine = [] := List.dropWhile_eq_nil_iff.mpr h
  have hr : ∀ line ∈ blanks.reverse, isBlankLine line = true := by simpa using h
  rw [dropBlankLines, dropBlankLines, List.dropWhile_append]
  split
  next he =>
    rw [List.isEmpty_iff.mp he, hb]
  next he =>
    rw [List.reverse_append, List.dropWhile_append_of_pos hr]

theorem dropBlankLines_cons {line : List Char} (h : isBlankLine line = true)
    (lines : List (List Char)) : dropBlankLines (line :: lines) = dropBlankLines lines := by
  rw [dropBlankLines, dropBlankLines, List.dropWhile_cons_of_pos h]

theorem dropBlankLines_cons_blank {blanks : List (List Char)}
    (h : ∀ line ∈ blanks, isBlankLine line = true) (line : List Char) :
    dropBlankLines (line :: blanks) = dropBlankLines [line] := by
  rw [← List.singleton_append, dropBlankLines_append_blank h]

theorem dropWhile_of_head {lines : List (List Char)}
    (h : ∀ line ∈ lines.head?, isBlankLine line = false) :
    lines.dropWhile isBlankLine = lines := by
  cases lines with
  | nil => rfl
  | cons line rest => exact List.dropWhile_cons_of_neg (by simpa using h line rfl)

theorem dropBlankLines_eq_self {lines : List (List Char)}
    (hf : ∀ line ∈ lines.head?, isBlankLine line = false)
    (hl : ∀ line ∈ lines.getLast?, isBlankLine line = false) : dropBlankLines lines = lines := by
  rw [dropBlankLines, dropWhile_of_head hf, dropWhile_of_head (by simpa using hl),
    List.reverse_reverse]

/-! ### Blanks in front of all lines -/

theorem dedentLines_indentBelow {lines : List (List Char)} :
    dropBlankLines (dedentLines (indentBelow lines)) = dropBlankLines (dedentLines lines) := by
  cases lines with
  | nil => rfl
  | cons first rest =>
    rw [indentBelow, dedentLines, dedentLines, List.map_map]
    by_cases h : ∃ line ∈ rest, isBlankLine line = false
    · obtain ⟨line, hl, hb, hw⟩ := exists_sharedIndent h
      have hs : sharedIndent (rest.map ([' ', ' '] ++ ·)) = sharedIndent rest + 2 := by
        rw [← hw, ← indentWidth_indent]
        refine sharedIndent_eq (List.mem_map_of_mem hl) hb fun other ho hb' => ?_
        obtain ⟨original, hm, rfl⟩ := List.mem_map.mp ho
        have hle : sharedIndent rest ≤ indentWidth original := sharedIndent_le hm hb'
        rw [indentWidth_indent, indentWidth_indent]
        omega
      rw [hs]
      rfl
    · have hb : ∀ line ∈ rest, isBlankLine line = true := by simpa using h
      have hi : ∀ line ∈ rest.map ([' ', ' '] ++ ·), isBlankLine line = true := by
        intro line hl
        obtain ⟨original, ho, rfl⟩ := List.mem_map.mp hl
        exact hb original ho
      rw [sharedIndent_of_blank hi, sharedIndent_of_blank hb]
      simp only [List.drop_zero, List.map_id', ← List.map_map]
      rw [dropBlankLines_cons_blank hi, dropBlankLines_cons_blank hb]

/-- What a block says does not depend on how far its lines are moved in. -/
theorem blockText_indentChars {raw : List Char} (h : '\r' ∉ raw) :
    blockText (indentChars raw) = blockText raw := by
  rw [blockText, blockText, splitLines_indentChars h, dedentLines_indentBelow]

/-! ### Texts that blocks say -/

/-- The lines of a text that a block says: the first and the last are not blank, and among several
lines there is one that is not moved in. -/
structure Settled (lines : List (List Char)) : Prop where
  plain : PlainLines lines
  first : ∀ line ∈ lines.head?, isBlankLine line = false
  last : ∀ line ∈ lines.getLast?, isBlankLine line = false
  flush : 1 < lines.length → ∃ line ∈ lines, isBlankLine line = false ∧ indentWidth line = 0

theorem mem_dropBlankLines {lines : List (List Char)} {line : List Char}
    (h : line ∈ dropBlankLines lines) : line ∈ lines := by
  rw [dropBlankLines, List.mem_reverse] at h
  have hh := (List.dropWhile_suffix _).subset h
  exact (List.dropWhile_suffix _).subset (List.mem_reverse.mp hh)

theorem mem_dropBlankLines_of_mem {lines : List (List Char)} {line : List Char} (h : line ∈ lines)
    (hb : isBlankLine line = false) : line ∈ dropBlankLines lines := by
  have hkeep : ∀ xs : List (List Char), line ∈ xs → line ∈ xs.dropWhile isBlankLine := by
    intro xs hx
    rw [← List.takeWhile_append_dropWhile (p := isBlankLine) (l := xs)] at hx
    rcases List.mem_append.mp hx with hx | hx
    · have hh := List.all_eq_true.mp (List.all_takeWhile (l := xs) (p := isBlankLine)) line hx
      rw [hb] at hh
      simp at hh
    · exact hx
  rw [dropBlankLines, List.mem_reverse]
  exact hkeep _ (List.mem_reverse.mpr (hkeep _ h))

theorem dropBlankLines_eq (lines : List (List Char)) :
    dropBlankLines lines = (lines.dropWhile isBlankLine).rdropWhile isBlankLine := rfl

theorem head?_dropBlankLines (lines : List (List Char)) :
    ∀ line ∈ (dropBlankLines lines).head?, isBlankLine line = false := by
  intro line hl
  rw [dropBlankLines_eq] at hl
  obtain ⟨tail, ht⟩ := List.rdropWhile_prefix isBlankLine (l := lines.dropWhile isBlankLine)
  cases hd : (lines.dropWhile isBlankLine).rdropWhile isBlankLine with
  | nil => simp [hd] at hl
  | cons first rest =>
    rw [hd, List.cons_append] at ht
    obtain rfl : first = line := by simpa [hd] using hl
    have hh := List.head?_dropWhile_not isBlankLine lines
    rw [← ht, List.head?_cons] at hh
    simpa using hh

theorem getLast?_dropBlankLines (lines : List (List Char)) :
    ∀ line ∈ (dropBlankLines lines).getLast?, isBlankLine line = false := by
  intro line hl
  rw [dropBlankLines_eq] at hl
  obtain ⟨hne, rfl⟩ := List.mem_getLast?_eq_getLast hl
  simpa using List.rdropWhile_last_not isBlankLine (lines.dropWhile isBlankLine) hne

theorem length_dropBlankLines_le (lines : List (List Char)) :
    (dropBlankLines lines).length ≤ lines.length := by
  rw [dropBlankLines_eq]
  exact (List.rdropWhile_prefix _ _).length_le.trans (List.dropWhile_suffix _).length_le

theorem drop_indentWidth (line : List Char) :
    line.drop (indentWidth line) = line.dropWhile isIndent := by
  induction line with
  | nil => rfl
  | cons c rest ih =>
    cases hc : isIndent c with
    | true => simpa [indentWidth, hc] using ih
    | false => simp [indentWidth, hc]

theorem flush_drop_indentWidth {line : List Char} (h : isBlankLine line = false) :
    isBlankLine (line.drop (indentWidth line)) = false ∧
      indentWidth (line.drop (indentWidth line)) = 0 := by
  rw [drop_indentWidth]
  have hh := List.head?_dropWhile_not isIndent line
  cases hd : line.dropWhile isIndent with
  | nil =>
    have hall : isBlankLine line = true := by
      simpa [isBlankLine] using List.dropWhile_eq_nil_iff.mp hd
    rw [h] at hall
    simp at hall
  | cons c rest =>
    rw [hd, List.head?_cons] at hh
    simp only at hh
    exact ⟨by simp [isBlankLine, hh], by simp [indentWidth, hh]⟩

/-- What reading leaves of the lines of a block is settled. -/
theorem settled_dedentLines {lines : List (List Char)} (h : PlainLines lines) :
    Settled (dropBlankLines (dedentLines lines)) := by
  refine ⟨fun line hl => ?_, head?_dropBlankLines _, getLast?_dropBlankLines _, fun hlen => ?_⟩
  · have hm := mem_dropBlankLines hl
    cases lines with
    | nil => simp [dedentLines] at hm
    | cons first rest =>
      rcases List.mem_cons.mp hm with rfl | hm
      · exact h _ List.mem_cons_self
      · obtain ⟨original, ho, rfl⟩ := List.mem_map.mp hm
        exact fun c hc => h original (List.mem_cons_of_mem _ ho) c (List.mem_of_mem_drop hc)
  · cases lines with
    | nil => simp [dedentLines, dropBlankLines] at hlen
    | cons first rest =>
      by_cases hb : ∃ line ∈ rest, isBlankLine line = false
      · obtain ⟨line, hl, hnb, hw⟩ := exists_sharedIndent hb
        have hf := flush_drop_indentWidth hnb
        rw [hw] at hf
        refine ⟨line.drop (sharedIndent rest), mem_dropBlankLines_of_mem ?_ hf.1, hf⟩
        exact List.mem_cons_of_mem _ (List.mem_map_of_mem hl)
      · have hall : ∀ line ∈ rest, isBlankLine line = true := by simpa using hb
        rw [dedentLines, sharedIndent_of_blank hall] at hlen
        simp only [List.drop_zero, List.map_id'] at hlen
        rw [dropBlankLines_cons_blank hall] at hlen
        have hle := length_dropBlankLines_le [first]
        simp only [List.length_singleton] at hle
        omega

def IsBlockText (text : List Char) : Prop :=
  ∃ lines, Settled lines ∧ text = joinLines lines

theorem isBlockText_blockText (raw : List Char) : IsBlockText (blockText raw) :=
  ⟨_, settled_dedentLines (plainLines_splitLines raw), rfl⟩

/-! ### Layouts of a text -/

/-- The text on a line of its own, or right behind the opening quotes if it is a single line. -/
theorem dropBlankLines_layout {lines after : List (List Char)} (h : Settled lines)
    (ha : after = [] ∨ after = [[]]) :
    (lines.length ≤ 1 → dropBlankLines (dedentLines (lines ++ after)) = lines) ∧
    ((∃ line ∈ lines, isBlankLine line = false ∧ indentWidth line = 0) →
      dropBlankLines (dedentLines ([] :: (lines ++ after))) = lines) := by
  have hblank : ∀ line ∈ after, isBlankLine line = true := by
    rcases ha with rfl | rfl <;> simp [isBlankLine]
  refine ⟨fun hlen => ?_, fun hflush => ?_⟩
  · cases lines with
    | nil => rcases ha with rfl | rfl <;> rfl
    | cons line rest =>
      obtain rfl : rest = [] := by
        rw [List.length_cons] at hlen
        exact List.eq_nil_of_length_eq_zero (by omega)
      have hm : after.map (List.drop (sharedIndent after)) = after := by
        rcases ha with rfl | rfl <;> simp
      rw [List.singleton_append, dedentLines, hm, dropBlankLines_cons_blank hblank]
      exact dropBlankLines_eq_self h.first h.last
  · obtain ⟨line, hl, hb, hw⟩ := hflush
    have hs : sharedIndent (lines ++ after) = 0 := by
      rw [← hw]
      exact sharedIndent_eq (List.mem_append_left _ hl) hb fun other _ _ => by omega
    rw [dedentLines, hs]
    simp only [List.drop_zero, List.map_id']
    rw [dropBlankLines_cons rfl, dropBlankLines_append_blank hblank]
    exact dropBlankLines_eq_self h.first h.last

end QueryRegistry
