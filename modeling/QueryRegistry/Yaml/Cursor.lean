/-! Places in a YAML text and the kinds of characters that matter there. The line ends of the text
have been unified before, so that a carriage return is no line end here. -/

namespace QueryRegistry

namespace Yaml

structure Mark where
  index : Nat := 0
  line : Nat := 0
  column : Nat := 0
  deriving DecidableEq, Repr, Inhabited

def isBreak (c : Char) : Bool :=
  c == '\n' || c == '\u0085' || c == '\u2028' || c == '\u2029'

/-- The place behind a character. A byte order mark takes no column. -/
def Mark.past (mark : Mark) (c : Char) : Mark :=
  if isBreak c then ⟨mark.index + 1, mark.line + 1, 0⟩
  else ⟨mark.index + 1, mark.line, if c == '\uFEFF' then mark.column else mark.column + 1⟩

/-- What remains of a text, and the place at which it begins. If the text is not whole, more follows
than is known. -/
structure Cursor where
  rest : List Char
  mark : Mark := {}
  whole : Bool := true
  deriving Repr, Inhabited

namespace Cursor

def peek (cursor : Cursor) : Option Char := cursor.rest.head?

def peekAt (cursor : Cursor) (n : Nat) : Option Char := cursor.rest[n]?

def next (cursor : Cursor) : Cursor :=
  match cursor.rest with
  | [] => cursor
  | c :: rest => { cursor with rest, mark := cursor.mark.past c }

def skip : Nat → Cursor → Cursor
  | 0, cursor => cursor
  | n + 1, cursor => skip n cursor.next

def column (cursor : Cursor) : Nat := cursor.mark.column

end Cursor

def orEnd (kind : Char → Bool) (c : Option Char) : Bool := c.all kind

def isBreakOrEnd : Option Char → Bool := orEnd isBreak

def isSpaceOrEnd : Option Char → Bool := orEnd fun c => c == ' ' || isBreak c

def isBlankOrEnd : Option Char → Bool := orEnd fun c => c == ' ' || c == '\t' || isBreak c

def isWordChar (c : Char) : Bool :=
  ('0' ≤ c && c ≤ '9') || ('A' ≤ c && c ≤ 'Z') || ('a' ≤ c && c ≤ 'z') || c == '-' || c == '_'

/-- The characters that a YAML text may hold. -/
def isAllowed (c : Char) : Bool :=
  c == '\t' || c == '\n' || c == '\r' || (' ' ≤ c && c ≤ '~') || c == '\u0085' ||
    ('\u00A0' ≤ c && c ≤ '\uFFFD') || 0x10000 ≤ c.toNat

end Yaml

end QueryRegistry
