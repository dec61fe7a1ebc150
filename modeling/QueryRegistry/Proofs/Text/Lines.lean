import Mathlib.Data.List.Basic
import QueryRegistry.Text.Lines

/-! Splitting and joining lines. Lines that hold no line end come back from the text in which they are
joined, and putting blanks in front of the lines of a text does so to all its lines but the first. -/

namespace QueryRegistry

/-- None of the lines goes on behind a line end. -/
def PlainLines (lines : List (List Char)) : Prop :=
  ∀ line ∈ lines, ∀ c ∈ line, isLineEnd c = false

theorem splitLines_newline (rest : List Char) : splitLines ('\n' :: rest) = [] :: splitLines rest := by
  rw [splitLines]
  · rfl
  · simp

theorem splitLines_cons {c : Char} (hc : isLineEnd c = false) (rest : List Char) :
    splitLines (c :: rest) = onFirstLine c (splitLines rest) := by
  rw [splitLines]
  · simp [hc]
  · rintro tail rfl
    simp [isLineEnd] at hc

theorem isLineEnd_of_ne {c : Char} (hn : c ≠ '\n') (hr : c ≠ '\r') : isLineEnd c = false := by
  simp [isLineEnd, hn, hr]

theorem joinLines_cons_cons (line next : List Char) (rest : List (List Char)) :
    joinLines (line :: next :: rest) = line ++ '\n' :: joinLines (next :: rest) := by
  simp [joinLines, List.intercalate]

theorem splitLines_append_newline {line : List Char} (h : ∀ c ∈ line, isLineEnd c = false)
    (rest : List Char) : splitLines (line ++ '\n' :: rest) = line :: splitLines rest := by
  induction line with
  | nil => exact splitLines_newline rest
  | cons c line ih =>
    rw [List.cons_append, splitLines_cons (h c List.mem_cons_self),
      ih fun d hd => h d (List.mem_cons_of_mem _ hd)]
    rfl

theorem splitLines_of_plain {line : List Char} (h : ∀ c ∈ line, isLineEnd c = false) :
    splitLines line = [line] := by
  induction line with
  | nil => rfl
  | cons c line ih =>
    rw [splitLines_cons (h c List.mem_cons_self), ih fun d hd => h d (List.mem_cons_of_mem _ hd)]
    rfl

theorem splitLines_joinLines {lines : List (List Char)} (hne : lines ≠ [])
    (h : PlainLines lines) : splitLines (joinLines lines) = lines := by
  induction lines with
  | nil => exact absurd rfl hne
  | cons line rest ih =>
    have hline := h line List.mem_cons_self
    cases rest with
    | nil => simpa [joinLines] using splitLines_of_plain hline
    | cons next rest =>
      rw [joinLines_cons_cons, splitLines_append_newline hline,
        ih (List.cons_ne_nil _ _) fun l hl => h l (List.mem_cons_of_mem _ hl)]

theorem plainLines_splitLines (text : List Char) : PlainLines (splitLines text) := by
  fun_induction splitLines text with
  | case1 => simp [PlainLines]
  | case2 rest ih => simpa [PlainLines] using ih
  | case3 c rest _ hc ih => simpa [PlainLines] using ih
  | case4 c rest _ hc ih =>
    have hc' : isLineEnd c = false := Bool.eq_false_iff.mpr hc
    cases hs : splitLines rest with
    | nil => exact absurd hs (splitLines_ne_nil rest)
    | cons line lines =>
      rw [hs] at ih
      intro l hl d hd
      rcases List.mem_cons.mp hl with rfl | hl
      · rcases List.mem_cons.mp hd with rfl | hd
        · exact hc'
        · exact ih line List.mem_cons_self d hd
      · exact ih l (List.mem_cons_of_mem _ hl) d hd

theorem not_mem_joinLines {lines : List (List Char)} (h : PlainLines lines) :
    '\r' ∉ joinLines lines := by
  induction lines with
  | nil => simp [joinLines]
  | cons line rest ih =>
    have hline : '\r' ∉ line := by
      intro hm
      have hr := h line List.mem_cons_self '\r' hm
      simp [isLineEnd] at hr
    cases rest with
    | nil => simpa [joinLines] using hline
    | cons next rest =>
      rw [joinLines_cons_cons]
      have hh := ih fun l hl => h l (List.mem_cons_of_mem _ hl)
      simp only [List.mem_append, List.mem_cons, not_or]
      exact ⟨hline, by decide, hh⟩

theorem joinLines_cons_of_ne_nil {lines : List (List Char)} (h : lines ≠ []) (line : List Char) :
    joinLines (line :: lines) = line ++ '\n' :: joinLines lines := by
  cases lines with
  | nil => exact absurd rfl h
  | cons next rest => exact joinLines_cons_cons line next rest

theorem joinLines_append_blank {lines : List (List Char)} (h : lines ≠ []) :
    joinLines (lines ++ [[]]) = joinLines lines ++ ['\n'] := by
  induction lines with
  | nil => exact absurd rfl h
  | cons line rest ih =>
    cases rest with
    | nil => simp [joinLines, List.intercalate]
    | cons next rest =>
      rw [List.cons_append, joinLines_cons_of_ne_nil (by simp),
        ih (List.cons_ne_nil _ _), joinLines_cons_cons]
      simp

theorem length_splitLines {text : List Char} (h : '\r' ∉ text) :
    (splitLines text).length = text.count '\n' + 1 := by
  induction text with
  | nil => rfl
  | cons c rest ih =>
    have hr : '\r' ∉ rest := fun hm => h (List.mem_cons_of_mem _ hm)
    by_cases hc : c = '\n'
    · subst hc
      rw [splitLines_newline, List.length_cons, ih hr, List.count_cons_self]
    · have he : isLineEnd c = false :=
        isLineEnd_of_ne hc fun e => h (e ▸ List.mem_cons_self)
      rw [splitLines_cons he, List.count_cons_of_ne hc, ← ih hr]
      cases hs : splitLines rest with
      | nil => exact absurd hs (splitLines_ne_nil rest)
      | cons line lines => rfl

/-! ### Blanks in front of lines -/

theorem indentChars_newline (rest : List Char) :
    indentChars ('\n' :: rest) = '\n' :: ' ' :: ' ' :: indentChars rest := rfl

theorem indentChars_cons {c : Char} (hc : c ≠ '\n') (rest : List Char) :
    indentChars (c :: rest) = c :: indentChars rest := by
  simp [indentChars, hc]

theorem indentChars_append (a b : List Char) :
    indentChars (a ++ b) = indentChars a ++ indentChars b :=
  List.flatMap_append

theorem indentChars_of_not_mem {text : List Char} (h : '\n' ∉ text) : indentChars text = text := by
  induction text with
  | nil => rfl
  | cons c rest ih =>
    rw [indentChars_cons fun e => h (e ▸ List.mem_cons_self),
      ih fun hm => h (List.mem_cons_of_mem _ hm)]

theorem mem_indentChars {c : Char} {text : List Char} (h : c ∈ indentChars text) :
    c = ' ' ∨ c ∈ text := by
  obtain ⟨d, hd, hc⟩ := List.mem_flatMap.mp h
  split at hc
  next hn =>
    rcases List.mem_cons.mp hc with rfl | hc
    · exact .inr (hn ▸ hd)
    · exact .inl (by simpa using hc)
  next hn => exact .inr (by simpa [List.mem_singleton.mp hc] using hd)

def indentBelow : List (List Char) → List (List Char)
  | [] => []
  | first :: rest => first :: rest.map ([' ', ' '] ++ ·)

theorem indentBelow_onFirstLine (c : Char) {lines : List (List Char)} (h : lines ≠ []) :
    indentBelow (onFirstLine c lines) = onFirstLine c (indentBelow lines) := by
  cases lines with
  | nil => exact absurd rfl h
  | cons line rest => rfl

theorem splitLines_indentChars {text : List Char} (h : '\r' ∉ text) :
    splitLines (indentChars text) = indentBelow (splitLines text) := by
  induction text with
  | nil => rfl
  | cons c rest ih =>
    have hr : '\r' ∉ rest := fun hm => h (List.mem_cons_of_mem _ hm)
    by_cases hc : c = '\n'
    · subst hc
      rw [indentChars_newline, splitLines_newline, splitLines_newline, splitLines_cons (by decide),
        splitLines_cons (by decide), ih hr]
      cases hs : splitLines rest with
      | nil => exact absurd hs (splitLines_ne_nil rest)
      | cons line lines => rfl
    · have he : isLineEnd c = false :=
        isLineEnd_of_ne hc fun e => h (e ▸ List.mem_cons_self)
      rw [indentChars_cons hc, splitLines_cons he, splitLines_cons he, ih hr,
        indentBelow_onFirstLine c (splitLines_ne_nil rest)]

theorem length_joinLines_onFirstLine {lines : List (List Char)} (c : Char) (h : lines ≠ []) :
    (joinLines (onFirstLine c lines)).length = (joinLines lines).length + 1 := by
  match lines, h with
  | [line], _ => simp [onFirstLine, joinLines]
  | line :: next :: rest, _ => simp [onFirstLine, joinLines, List.intercalate]

theorem length_joinLines_nil_cons {lines : List (List Char)} (h : lines ≠ []) :
    (joinLines ([] :: lines)).length = (joinLines lines).length + 1 := by
  cases lines with
  | nil => exact absurd rfl h
  | cons line rest => simp [joinLines, List.intercalate]

theorem length_unifyLineEnds_le (text : List Char) : (unifyLineEnds text).length ≤ text.length := by
  unfold unifyLineEnds
  fun_induction splitLines text with
  | case1 => simp [joinLines]
  | case2 rest ih =>
    rw [length_joinLines_nil_cons (splitLines_ne_nil rest), List.length_cons, List.length_cons]
    omega
  | case3 c rest _ hc ih =>
    rw [length_joinLines_nil_cons (splitLines_ne_nil rest)]
    exact Nat.succ_le_succ ih
  | case4 c rest _ hc ih =>
    rw [length_joinLines_onFirstLine c (splitLines_ne_nil rest)]
    exact Nat.succ_le_succ ih

end QueryRegistry
