import QueryRegistry.Text.Stream
import QueryRegistry.Yaml.Property
import QueryRegistry.Yaml.Scalar

/-! Reading the tokens of a YAML text. Outside of brackets the indentation tells where lists and
mappings begin and end. A key need not be marked as one: it is known by the colon behind it, and the
tokens that mark it are then put in front of it. -/

namespace QueryRegistry

namespace Yaml

/-- A place where a key may have begun, and the number of tokens before it. One that begins a line of
a block has to be a key. -/
structure PossibleKey where
  position : Nat
  required : Bool
  mark : Mark
  deriving Repr

structure Layout where
  tokens : List Token := []
  count : Nat := 0
  flow : Nat := 0
  indent : Int := -1
  outerIndents : List Int := []
  allowKey : Bool := true
  /-- The places that matter, by the number of brackets open there. -/
  keys : List (Nat × PossibleKey) := []

abbrev LayoutScan := StateT Layout Scan

namespace LayoutScan

def push (kind : TokenKind) (start stop : Mark) : LayoutScan Unit :=
  modify fun layout =>
    { layout with tokens := ⟨kind, start, stop⟩ :: layout.tokens, count := layout.count + 1 }

def insertAt (position : Nat) (kind : TokenKind) (mark : Mark) : LayoutScan Unit :=
  modify fun layout =>
    let (after, before) := layout.tokens.splitAt (layout.count - position)
    { layout with tokens := after ++ ⟨kind, mark, mark⟩ :: before, count := layout.count + 1 }

def allow (allowKey : Bool) : LayoutScan Unit := modify ({ · with allowKey })

def inFlow : LayoutScan Bool := return decide (0 < (← get).flow)

def mark : LayoutScan Mark := Scan.mark

/-- A required key may not be given up. -/
def giveUp (key : PossibleKey) : LayoutScan Unit := do
  if key.required then
    Scan.failWhile .simpleKey key.mark (.plain "could not find expected ':'")

/-- A key ends on its line and is not too long. -/
def dropStaleKeys : LayoutScan Unit := do
  let here ← mark
  for (level, key) in (← get).keys do
    if key.mark.line ≠ here.line || decide (1024 < here.index - key.mark.index) then
      giveUp key
      modify fun layout => { layout with keys := layout.keys.filter (·.1 ≠ level) }

def removeKey : LayoutScan Unit := do
  let layout ← get
  if let some key := layout.keys.lookup layout.flow then
    giveUp key
    set { layout with keys := layout.keys.filter (·.1 ≠ layout.flow) }

def saveKey : LayoutScan Unit := do
  if (← get).allowKey then
    removeKey
    let here ← mark
    modify fun layout =>
      let required := decide (layout.flow = 0) && decide (layout.indent = (here.column : Int))
      { layout with keys := (layout.flow, ⟨layout.count, required, here⟩) :: layout.keys }

def unwindTo (column : Int) (here : Mark) : List Int → LayoutScan Unit
  | [] => return ()
  | outer :: rest => do
    if column < (← get).indent then
      push .blockEnd here here
      modify ({ · with indent := outer, outerIndents := rest })
      unwindTo column here rest

def unwind (column : Int) : LayoutScan Unit := do
  unless ← inFlow do
    unwindTo column (← mark) (← get).outerIndents

def indentTo (column : Nat) : LayoutScan Bool := do
  let layout ← get
  if layout.indent < column then
    set { layout with indent := column, outerIndents := layout.indent :: layout.outerIndents }
    return true
  else return false

def beginBlock (kind : TokenKind) : LayoutScan Unit := do
  let here ← mark
  if ← indentTo here.column then
    push kind here here

def require (allowed : Bool) (what : String) : LayoutScan Unit := do
  unless allowed do
    Scan.fault none (.plain (what ++ " are not allowed here"))

def pass (n : Nat) (kind : TokenKind) : LayoutScan Unit := do
  let start ← mark
  Scan.skip n
  push kind start (← mark)

def read (scan : Scan TokenKind) : LayoutScan Unit := do
  let start ← mark
  let kind ← scan
  push kind start (← mark)

def toStart : LayoutScan Unit := do
  unwind (-1)
  removeKey
  allow false

def streamEnd : LayoutScan Unit := do
  toStart
  modify ({ · with keys := [] })
  let here ← mark
  push .streamEnd here here

def separator (kind : TokenKind) : LayoutScan Unit := do
  toStart
  pass 3 kind

def openFlow (kind : TokenKind) : LayoutScan Unit := do
  saveKey
  modify fun layout => { layout with flow := layout.flow + 1 }
  allow true
  pass 1 kind

def closeFlow (kind : TokenKind) : LayoutScan Unit := do
  removeKey
  modify fun layout => { layout with flow := layout.flow - 1 }
  allow false
  pass 1 kind

def flowEntry : LayoutScan Unit := do
  allow true
  removeKey
  pass 1 .flowEntry

def blockEntry : LayoutScan Unit := do
  unless ← inFlow do
    require (← get).allowKey "sequence entries"
    beginBlock .blockSequenceStart
  allow true
  removeKey
  pass 1 .blockEntry

def key : LayoutScan Unit := do
  unless ← inFlow do
    require (← get).allowKey "mapping keys"
    beginBlock .blockMappingStart
  allow (!(← inFlow))
  removeKey
  pass 1 .key

/-- A colon: what may be a key before it is one. -/
def value : LayoutScan Unit := do
  let layout ← get
  match layout.keys.lookup layout.flow with
  | some key =>
    modify fun layout => { layout with keys := layout.keys.filter (·.1 ≠ layout.flow) }
    insertAt key.position .key key.mark
    unless ← inFlow do
      if ← indentTo key.mark.column then
        insertAt key.position .blockMappingStart key.mark
    allow false
  | none =>
    unless ← inFlow do
      require layout.allowKey "mapping values"
      beginBlock .blockMappingStart
    allow (!(← inFlow))
    removeKey
  pass 1 .value

def item (scan : Scan TokenKind) : LayoutScan Unit := do
  saveKey
  allow false
  read scan

def plainScalar : LayoutScan Unit := do
  saveKey
  let layout ← get
  let start ← mark
  let plain ← Scan.plain (decide (0 < layout.flow)) (layout.indent + 1)
  allow plain.lineEnded
  push (.scalar (String.ofList plain.text) true) start plain.stop

def blockScalar (folded : Bool) : LayoutScan Unit := do
  allow true
  removeKey
  let outer := (← get).indent
  read do
    let text ← Scan.blockScalar folded outer
    return .scalar (String.ofList text) false

def quotedScalar (double : Bool) : LayoutScan Unit :=
  item do
    let text ← Scan.quotedScalar double
    return .scalar (String.ofList text) false

/-- Blanks, comments and line ends up to the next token. A new line may begin with a key. -/
def toNextToken : Nat → LayoutScan Unit
  | 0 => return ()
  | bound + 1 => do
    Scan.skipSpaces
    Scan.skipComment
    if (← Scan.lineBreak).isSome then
      unless ← inFlow do
        allow true
      toNextToken bound

def separatorNext (possible : Bool) : LayoutScan Bool := do
  if possible then Scan.atSeparator else return false

def isIndicator (c : Char) : Bool :=
  "-?:,[]\x7b\x7d#&*!|>'\"%@\x60".toList.contains c

def beginsPlain (flow : Bool) (c : Char) : LayoutScan Bool := do
  if isIndicator c || isBlankOrEnd (some c) then
    let next ← Scan.peekAt 1
    return !isBlankOrEnd next && (c == '-' || (!flow && (c == '?' || c == ':')))
  else return true

/-- Whether a blank follows a character, which is looked at only if need be. -/
def blankNext (needed : Bool) : LayoutScan Bool := do
  if needed then return isBlankOrEnd (← Scan.peekAt 1) else return false

def token (c : Char) : LayoutScan Unit := do
  let flow ← inFlow
  let column := (← mark).column
  if c == '%' && column = 0 then do
    toStart
    read Scan.directive
  else if ← separatorNext (c == '-' && column = 0) then separator .documentStart
  else if ← separatorNext (c == '.' && column = 0) then separator .documentEnd
  else if c == '[' then openFlow .flowSequenceStart
  else if c == '\x7b' then openFlow .flowMappingStart
  else if c == ']' then closeFlow .flowSequenceEnd
  else if c == '\x7d' then closeFlow .flowMappingEnd
  else if c == ',' then flowEntry
  else if ← blankNext (c == '-') then blockEntry
  else if c == '?' && flow then key
  else if ← blankNext (c == '?') then key
  else if c == ':' && flow then value
  else if ← blankNext (c == ':') then value
  else if c == '*' || c == '&' then item Scan.anchor
  else if c == '!' then item Scan.tag
  else if c == '|' && !flow then blockScalar false
  else if c == '>' && !flow then blockScalar true
  else if c == '\'' then quotedScalar false
  else if c == '"' then quotedScalar true
  else if ← beginsPlain flow c then plainScalar
  else
    liftM (m := Scan) (Scan.fault (some (.nextToken, none))
      (.plain ("found character " ++ quoteChar? (some c) ++ " that cannot start any token")))

def step : LayoutScan Bool := do
  toNextToken (← Scan.bound)
  dropStaleKeys
  unwind (← mark).column
  match ← Scan.peek with
  | none =>
    streamEnd
    return false
  | some c =>
    token c
    dropStaleKeys
    return true

/-- The tokens that are of use where the reading stops: those before the first that may yet be a key. -/
def before (layout : Layout) (stop : Stop) : TokenStream :=
  let settled := (layout.keys.map fun (_, key) => key.position).foldl min layout.count
  ⟨(layout.tokens.drop (layout.count - settled)).reverse, some stop⟩

/-- Steps through a text. Each takes a character. -/
def steps : Nat → Layout → Cursor → TokenStream
  | 0, layout, _ => ⟨layout.tokens.reverse, none⟩
  | bound + 1, layout, cursor =>
    match (step.run layout).run cursor with
    | .error stop => before layout stop
    | .ok ((goesOn, after), rest) =>
      if goesOn then steps bound after rest else ⟨after.tokens.reverse, none⟩

end LayoutScan

def firstDisallowed : Nat → List Char → Option (Char × Nat)
  | _, [] => none
  | position, c :: rest =>
    if isAllowed c then firstDisallowed (position + 1) rest else some (c, position)

/-- A byte order mark in front of the text is no part of it. -/
def firstCursor (text : List Char) (whole : Bool) : Cursor :=
  let cursor : Cursor := { rest := text, whole }
  if text.head? = some '\uFEFF' then cursor.next else cursor

def tokensOfAllowed (text : List Char) (whole : Bool) : TokenStream :=
  LayoutScan.steps (text.length + 1) {} (firstCursor text whole)

/-- The tokens of a text, which may be the beginning of one that is not known to its end. A part of it
that holds a character that may not stand there is refused when the text before it has been used up. -/
def tokens (text : List Char) (whole : Bool := true) : TokenStream :=
  match firstDisallowed 0 text with
  | none => tokensOfAllowed text whole
  | some (c, position) =>
    let stop := Stop.fault (.character c position)
    if position < Stream.firstParts then ⟨[], some stop⟩
    else
      let before := text.take (position / Stream.partLength * Stream.partLength)
      let stream := tokensOfAllowed before false
      match stream.stop with
      | some (.fault .cutOff) => { stream with stop }
      | _ => stream

end Yaml

end QueryRegistry
