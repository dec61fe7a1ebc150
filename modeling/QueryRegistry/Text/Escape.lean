import QueryRegistry.Text.Hexadecimal

/-! Escapes that quotations of several kinds share: a backslash with one letter, or with the letter u
and the number of a character. A character beyond the first plane is written as two numbers, the
halves of a surrogate pair. -/

namespace QueryRegistry

def simpleEscape? : Char → Option Char
  | '"' => some '"'
  | '\\' => some '\\'
  | '/' => some '/'
  | 'b' => some '\x08'
  | 'f' => some '\x0c'
  | 'n' => some '\n'
  | 'r' => some '\r'
  | 't' => some '\t'
  | _ => none

def fourDigits? (text : List Char) : Option Nat :=
  if (text.take 4).length = 4 then hexNumber? (text.take 4) else none

def isHighSurrogate (n : Nat) : Bool := 0xD800 ≤ n && n ≤ 0xDBFF

def isLowSurrogate (n : Nat) : Bool := 0xDC00 ≤ n && n ≤ 0xDFFF

def surrogatePair? (high low : Nat) : Option Char :=
  if isHighSurrogate high && isLowSurrogate low then
    scalar? (0x10000 + (high - 0xD800) * 0x400 + (low - 0xDC00))
  else none

/-- The character whose number follows, with a second escape for the second half of a pair. -/
def numberedEscape? (text : List Char) : Option (Char × List Char) :=
  match fourDigits? text with
  | none => none
  | some n =>
    match scalar? n with
    | some c => some (c, text.drop 4)
    | none =>
      match text.drop 4 with
      | '\\' :: 'u' :: rest =>
        ((fourDigits? rest).bind (surrogatePair? n)).map fun c => (c, rest.drop 4)
      | _ => none

theorem length_numberedEscape? {text rest : List Char} {c : Char}
    (h : numberedEscape? text = some (c, rest)) : rest.length ≤ text.length := by
  unfold numberedEscape? at h
  split at h
  · simp at h
  · split at h
    · simp only [Option.some.injEq, Prod.mk.injEq] at h
      simp [← h.2]
    · split at h
      next later hdrop =>
        obtain ⟨_, _, hr⟩ := Option.map_eq_some_iff.mp h
        have := congrArg List.length hdrop
        simp only [List.length_drop, List.length_cons] at this
        simp only [Prod.mk.injEq] at hr
        rw [← hr.2, List.length_drop]
        omega
      · simp at h

end QueryRegistry
