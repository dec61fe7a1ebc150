import QueryRegistry.Text.Lines

/-! Text between triple quotes. What is read is stripped of the blank lines around it and of the
indent that its lines share, the first line apart, which starts behind the quotes; what is written
is laid out so that this stripping gives the text back. -/

namespace QueryRegistry

def isIndent (c : Char) : Bool := c == ' ' || c == '\t'

def indentWidth (line : List Char) : Nat := (line.takeWhile isIndent).length

def isBlankLine (line : List Char) : Bool := line.all isIndent

def sharedIndent (lines : List (List Char)) : Nat :=
  ((lines.filter (!isBlankLine ·)).map indentWidth).min?.getD 0

def dropBlankLines (lines : List (List Char)) : List (List Char) :=
  ((lines.dropWhile isBlankLine).reverse.dropWhile isBlankLine).reverse

def dedentLines : List (List Char) → List (List Char)
  | [] => []
  | first :: rest => first :: rest.map (·.drop (sharedIndent rest))

def blockText (raw : List Char) : List Char :=
  joinLines (dropBlankLines (dedentLines (splitLines raw)))

def escapeTripleQuotes : List Char → List Char
  | [] => []
  | '"' :: '"' :: '"' :: rest => '\\' :: '"' :: '"' :: '"' :: escapeTripleQuotes rest
  | c :: rest => c :: escapeTripleQuotes rest

/-- The lines below the first would lose their indent if the text began behind the quotes. -/
def needsLeadingBreak (lines : List (List Char)) : Bool :=
  decide (1 < lines.length) && lines.tail.all fun line => line.head?.all isIndent

/-- The characters to write between two triple quotes: on lines of their own when the text has
several lines or more than seventy characters, or ends in what the closing quotes would blur. -/
def layOutBlock (text : List Char) : List Char :=
  let escaped := escapeTripleQuotes text
  let lines := splitLines escaped
  let leading := needsLeadingBreak lines
  let endsInTriple := escaped.reverse.take 4 == ['"', '"', '"', '\\']
  let trailing := (text.getLast? == some '"' && !endsInTriple) || text.getLast? == some '\\'
  let apart := decide (1 < lines.length) || decide (70 < text.length) || trailing || leading ||
    endsInTriple
  let startsIndented := lines.length == 1 && text.head?.any isIndent
  (if (apart && !startsIndented) || leading then ['\n'] else []) ++ escaped ++
    (if apart || trailing then ['\n'] else [])

end QueryRegistry
