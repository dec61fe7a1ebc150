import QueryRegistry.Yaml.Fault

/-! The steps of which the reading of YAML tokens is made. A scan stands at a place in the text and
moves on. -/

namespace QueryRegistry

namespace Yaml

abbrev Scan := StateT Cursor (Except Stop)

namespace Scan

def fault {α : Type} (activity : Option (Activity × Option Mark)) (problem : Problem) : Scan α :=
  fun cursor => .error (.fault (.marked activity problem cursor.mark))

def failWhile {α : Type} (activity : Activity) (began : Mark) (problem : Problem) : Scan α :=
  fault (some (activity, some began)) problem

def breakDown {α : Type} (breakdown : Breakdown) : Scan α := throw (.breakdown breakdown)

def mark : Scan Mark := return (← get).mark

/-- Goes on only where so many characters are known, or where the text is known to its end. -/
def know (n : Nat) : Scan Unit := fun cursor =>
  if cursor.whole || n = 0 || !(cursor.rest.drop (n - 1)).isEmpty then .ok ((), cursor)
  else .error (.fault .cutOff)

def peekAt (n : Nat) : Scan (Option Char) := do
  know (n + 1)
  return (← get).peekAt n

def peek : Scan (Option Char) := peekAt 0

/-- The character that is come to has to be known, too. -/
def skip (n : Nat) : Scan Unit := do
  know (n + 1)
  modify (Cursor.skip n)

def bound : Scan Nat := return (← get).rest.length + 1

def take (n : Nat) : Scan (List Char) := do
  let chars := (← get).rest.take n
  skip n
  return chars

def takeWhile (kind : Char → Bool) : Scan (List Char) := do
  take ((← get).rest.takeWhile kind).length

/-- Whether a line of three hyphens or of three points begins here. -/
def atSeparator : Scan Bool := do
  know 3
  let first := (← get).rest.take 3
  if first = ['-', '-', '-'] ∨ first = ['.', '.', '.'] then
    return isBlankOrEnd (← peekAt 3)
  else return false

def skipWhile (kind : Char → Bool) : Scan Unit := do
  let _ ← takeWhile kind

def skipSpaces : Scan Unit := skipWhile (· == ' ')

def skipComment : Scan Unit := do
  if (← peek) = some '#' then
    skipWhile fun c => !isBreak c

/-- The line end that comes next, if one does. Two of its kinds are kept as they are. -/
def lineBreak : Scan (Option Char) := do
  match ← peek with
  | some c =>
    if isBreak c then
      skip 1
      return some (if c == '\u0085' then '\n' else c)
    else return none
  | none => return none

/-- The line ends that come next with blanks of the given kind before each of them. -/
def breaksUpTo (blank : Char → Bool) : Nat → Scan (List Char)
  | 0 => return []
  | bound + 1 => do
    skipWhile blank
    match ← lineBreak with
    | some c => return c :: (← breaksUpTo blank bound)
    | none => return []

/-- What a line end and the empty lines behind it are worth in a text that is folded. -/
def fold (first : Char) (breaks : List Char) : List Char :=
  if first ≠ '\n' then first :: breaks else if breaks.isEmpty then [' '] else breaks

def restOfLine (activity : Activity) (began : Mark) : Scan Unit := do
  skipSpaces
  skipComment
  let c ← peek
  unless isBreakOrEnd c do
    failWhile activity began (.expectedChar "a comment or a line break" c)
  let _ ← lineBreak

end Scan

end Yaml

end QueryRegistry
