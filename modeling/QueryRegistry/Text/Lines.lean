/-! Lines of a text and places in it. A line ends at a line feed, at a carriage return, or at a
carriage return with the line feed after it; the pieces between the ends are the lines, so that
every text has at least one. A place is told by the line it stands on and its column there. Where texts
are put together, what is empty leaves no trace: neither a separator nor the brackets around it. -/

namespace QueryRegistry

def isLineEnd (c : Char) : Bool := c == '\n' || c == '\r'

def onFirstLine (c : Char) : List (List Char) → List (List Char)
  | [] => [[c]]
  | line :: rest => (c :: line) :: rest

def splitLines : List Char → List (List Char)
  | [] => [[]]
  | '\r' :: '\n' :: rest => [] :: splitLines rest
  | c :: rest => if isLineEnd c then [] :: splitLines rest else onFirstLine c (splitLines rest)

def joinLines (lines : List (List Char)) : List Char :=
  List.intercalate ['\n'] lines

/-- The same lines with a line feed at the end of each but the last. -/
def unifyLineEnds (text : List Char) : List Char :=
  joinLines (splitLines text)

theorem onFirstLine_ne_nil (c : Char) (lines : List (List Char)) : onFirstLine c lines ≠ [] := by
  cases lines <;> simp [onFirstLine]

theorem splitLines_ne_nil (text : List Char) : splitLines text ≠ [] := by
  fun_cases splitLines text <;> simp [onFirstLine_ne_nil]

/-- Lines and columns count from one. -/
structure Location where
  line : Nat
  column : Nat
  deriving DecidableEq, Repr

def Location.after (text : List Char) : Location :=
  let lines := splitLines text
  ⟨lines.length, (lines.getLastD []).length + 1⟩

/-- The place in `text` at which `rest`, one of its endings, begins. -/
def Location.before (text rest : List Char) : Location :=
  Location.after (text.take (text.length - rest.length))

def joinTexts (separator : String) (parts : List String) : String :=
  separator.intercalate (parts.filter (· ≠ ""))

def wrapText (before text after : String) : String :=
  if text = "" then "" else before ++ text ++ after

def indentChars (text : List Char) : List Char :=
  text.flatMap fun c => if c = '\n' then ['\n', ' ', ' '] else [c]

def indentText (text : String) : String :=
  wrapText "  " (String.ofList (indentChars text.toList)) ""

def blockOf (parts : List String) : String :=
  wrapText "\x7b\n" (indentText (joinTexts "\n" parts)) "\n\x7d"

end QueryRegistry
