import QueryRegistry.Text.Hexadecimal
import QueryRegistry.Yaml.Scan

/-! Reading scalars: plain ones, which end where something else can begin, quoted ones, and blocks of
lines. Lines of a scalar are folded into one, except in blocks that are kept literal. -/

namespace QueryRegistry

namespace Yaml

namespace Scan

/-! ### Plain scalars -/

/-- How many characters of a plain scalar stand here without a blank between them. -/
def plainLength (flow : Bool) : List Char → Nat
  | [] => 0
  | c :: rest =>
    let ends := isBlankOrEnd (some c) ||
      (c == ':' && (isBlankOrEnd rest.head? ||
        (flow && rest.head?.any fun d => ",[]\x7b\x7d".toList.contains d))) ||
      (flow && ",?[]\x7b\x7d".toList.contains c)
    if ends then 0 else plainLength flow rest + 1

/-- The spaces and line ends behind a piece of a plain scalar, as they would be folded. There are none
at a separator. The second part tells whether a line has ended. -/
def plainSpaces : Scan (List Char × Bool) := do
  let spaces ← takeWhile (· == ' ')
  match ← lineBreak with
  | none => return (spaces, false)
  | some first =>
    if ← atSeparator then return ([], true)
    let breaks ← breaks (← bound)
    match breaks with
    | none => return ([], true)
    | some breaks => return (fold first breaks, true)
where
  /-- The line ends up to the next character, unless a separator comes before it. -/
  breaks : Nat → Scan (Option (List Char))
    | 0 => return some []
    | bound + 1 => do
      skipSpaces
      match ← lineBreak with
      | none => return some []
      | some c =>
        if ← atSeparator then return none
        else return (← breaks bound).map (c :: ·)

structure Plain where
  text : List Char
  stop : Mark
  lineEnded : Bool

/-- The pieces of a plain scalar that follow `before`, which ends in what may turn out to be a blank
behind the scalar. -/
def plainUpTo (flow : Bool) (indent : Int) (text spaces : List Char) (stop : Mark)
    (lineEnded : Bool) : Nat → Scan Plain
  | 0 => return ⟨text, stop, lineEnded⟩
  | bound + 1 => do
    let length := plainLength flow (← get).rest
    if (← peek) = some '#' then return ⟨text, stop, lineEnded⟩
    if (← peekAt length) = some ':' then know (length + 2)
    if length = 0 then return ⟨text, stop, lineEnded⟩
    let text := text ++ spaces ++ (← take length)
    let stop ← mark
    let (spaces, lineEnded) ← plainSpaces
    if spaces.isEmpty || (← peek) = some '#' || (!flow && (← mark).column < indent) then
      return ⟨text, stop, lineEnded⟩
    plainUpTo flow indent text spaces stop lineEnded bound

def plain (flow : Bool) (indent : Int) : Scan Plain := do
  plainUpTo flow indent [] [] (← mark) false (← bound)

/-! ### Quoted scalars -/

def isBlank (c : Char) : Bool := c == ' ' || c == '\t'

def replacement? : Char → Option Char
  | '0' => some '\x00'
  | 'a' => some '\x07'
  | 'b' => some '\x08'
  | 't' => some '\t'
  | '\t' => some '\t'
  | 'n' => some '\n'
  | 'v' => some '\x0b'
  | 'f' => some '\x0c'
  | 'r' => some '\r'
  | 'e' => some '\x1b'
  | ' ' => some ' '
  | '"' => some '"'
  | '\\' => some '\\'
  | '/' => some '/'
  | 'N' => some '\u0085'
  | '_' => some '\u00A0'
  | 'L' => some '\u2028'
  | 'P' => some '\u2029'
  | _ => none

def escapeWidth? : Char → Option Nat
  | 'x' => some 2
  | 'u' => some 4
  | 'U' => some 8
  | _ => none

def quotedBreaksUpTo (began : Mark) : Nat → Scan (List Char)
  | 0 => return []
  | bound + 1 => do
    if ← atSeparator then
      failWhile .quoted began (.plain "found unexpected document separator")
    skipWhile isBlank
    match ← lineBreak with
    | some c => return c :: (← quotedBreaksUpTo began bound)
    | none => return []

/-- An escape, from its backslash on. One at the end of a line joins it to the next. -/
def escape (began : Mark) : Scan (List Char) := do
  skip 1
  let c ← peek
  let unknown := failWhile .doubleQuoted began
    (.plain ("found unknown escape character " ++ quoteChar? c))
  match c with
  | none => unknown
  | some c =>
    if let some d := replacement? c then
      skip 1
      return [d]
    else if let some width := escapeWidth? c then
      skip 1
      for k in List.range width do
        let digit ← peekAt k
        unless digit.any isHexDigit do
          failWhile .doubleQuoted began (.expectedChar
            ("escape sequence of " ++ toString width ++ " hexadecimal numbers") digit)
      let number := (hexNumber? ((← get).rest.take width)).getD 0
      if 0x110000 ≤ number then
        breakDown (.noCharacter number)
      skip width
      return [(scalar? number).getD '\uFFFD']
    else if isBreak c then
      let _ ← lineBreak
      quotedBreaksUpTo began (← bound)
    else unknown

def quotedPieceUpTo (double : Bool) (began : Mark) : Nat → Scan (List Char)
  | 0 => return []
  | bound + 1 => do
    match ← peek with
    | none => return []
    | some c =>
      if isBlank c || isBreak c then return []
      else if double && c == '"' then return []
      else if double && c == '\\' then
        let chars ← escape began
        return chars ++ (← quotedPieceUpTo double began bound)
      else if !double && c == '\'' then
        if (← peekAt 1) = some '\'' then
          skip 2
          return '\'' :: (← quotedPieceUpTo double began bound)
        else return []
      else
        skip 1
        return c :: (← quotedPieceUpTo double began bound)

def quotedSpaces (began : Mark) : Scan (List Char) := do
  let blanks ← takeWhile isBlank
  if (← peek).isNone then
    failWhile .quoted began (.plain "found unexpected end of stream")
  match ← lineBreak with
  | none => return blanks
  | some first => return fold first (← quotedBreaksUpTo began (← bound))

def quotedUpTo (double : Bool) (quote : Char) (began : Mark) : Nat → Scan (List Char)
  | 0 => return []
  | bound + 1 => do
    let piece ← quotedPieceUpTo double began (← Scan.bound)
    if (← peek) = some quote then
      skip 1
      return piece
    let spaces ← quotedSpaces began
    return piece ++ spaces ++ (← quotedUpTo double quote began bound)

def quotedScalar (double : Bool) : Scan (List Char) := do
  let began ← mark
  skip 1
  quotedUpTo double (if double then '"' else '\'') began (← bound)

/-! ### Blocks of lines -/

inductive Chomping where
  | strip
  | clip
  | keep
  deriving DecidableEq, Repr

def chomping? : Option Char → Option Chomping
  | some '+' => some .keep
  | some '-' => some .strip
  | _ => none

def isAsciiDigit (c : Char) : Bool := '0' ≤ c && c ≤ '9'

def indentIndicator (began : Mark) : Scan (Option Nat) := do
  match ← peek with
  | some c =>
    if isAsciiDigit c then
      if c == '0' then
        failWhile .blockScalar began
          (.plain "expected indentation indicator in the range 1-9, but found 0")
      skip 1
      return some (c.toNat - '0'.toNat)
    else return none
  | none => return none

def chompingIndicator : Scan (Option Chomping) := do
  match chomping? (← peek) with
  | some chomping =>
    skip 1
    return some chomping
  | none => return none

def blockHeader (began : Mark) : Scan (Chomping × Option Nat) := do
  let (chomping, indent) ← do
    match ← chompingIndicator with
    | some chomping => pure (some chomping, ← indentIndicator began)
    | none =>
      match ← indentIndicator began with
      | none => pure (none, none)
      | some indent => pure (← chompingIndicator, some indent)
  let c ← peek
  unless isSpaceOrEnd c do
    failWhile .blockScalar began (.expectedChar "chomping or indentation indicators" c)
  return (chomping.getD .clip, indent)

/-- The empty lines in front of a block, and the deepest column that is reached in them or in front of
the first line that is not empty. -/
def leadingLinesUpTo (deepest : Nat) : Nat → Scan (List Char × Nat)
  | 0 => return ([], deepest)
  | bound + 1 => do
    skipSpaces
    let deepest := max deepest (← mark).column
    match ← lineBreak with
    | none => return ([], deepest)
    | some c => do
      let (breaks, deepest) ← leadingLinesUpTo deepest bound
      return (c :: breaks, deepest)

def skipIndent (indent : Nat) : Scan Unit := do
  let spaces := (← get).rest.takeWhile (· == ' ')
  skip (min spaces.length (indent - (← mark).column))

def emptyLinesUpTo (indent : Nat) : Nat → Scan (List Char)
  | 0 => return []
  | bound + 1 => do
    skipIndent indent
    match ← lineBreak with
    | some c => return c :: (← emptyLinesUpTo indent bound)
    | none => return []

def emptyLines (indent : Nat) : Scan (List Char) := do emptyLinesUpTo indent (← bound)

def inBlock (indent : Nat) : Scan Bool := do
  return (← mark).column = indent && (← peek).isSome

/-- The lines of a block from the one that begins here, with the line end of the last one and the
empty lines behind it. -/
def blockLinesUpTo (folded : Bool) (indent : Nat) :
    Nat → Scan (List Char × Option Char × List Char)
  | 0 => return ([], none, [])
  | bound + 1 => do
    let indented := (← peek).any isBlank
    let line ← takeWhile fun c => !isBreak c
    let ending ← lineBreak
    let breaks ← emptyLines indent
    if ← inBlock indent then
      let joint :=
        if folded && ending = some '\n' && !indented && !(← peek).any isBlank then
          if breaks.isEmpty then [' '] else []
        else ending.toList
      let (text, last, trailing) ← blockLinesUpTo folded indent bound
      return (line ++ joint ++ breaks ++ text, last, trailing)
    else return (line, ending, breaks)

/-- A block of lines, from its indicator on, within text that is indented to `outer`. -/
def blockScalar (folded : Bool) (outer : Int) : Scan (List Char) := do
  let began ← mark
  skip 1
  let (chomping, indicated) ← blockHeader began
  restOfLine .blockScalar began
  let least := max 1 (outer + 1).toNat
  let (leading, indent) ←
    match indicated with
    | none => do
      let (breaks, deepest) ← leadingLinesUpTo 0 (← bound)
      pure (breaks, max least deepest)
    | some n => do
      let indent := least + n - 1
      pure (← emptyLines indent, indent)
  let (text, ending, trailing) ←
    if ← inBlock indent then do
      let (text, ending, trailing) ← blockLinesUpTo folded indent (← bound)
      pure (leading ++ text, ending, trailing)
    else pure ([], none, leading)
  return match chomping with
    | .strip => text
    | .clip => text ++ ending.toList
    | .keep => text ++ ending.toList ++ trailing

end Scan

end Yaml

end QueryRegistry
