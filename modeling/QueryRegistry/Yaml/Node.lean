import QueryRegistry.Yaml.Fault
import QueryRegistry.Yaml.Plain
import QueryRegistry.Yaml.Token

/-! The values that the tokens of a YAML text describe. They are known by numbers, so that a value can
hold another one more than once, and even itself. An alias is the number of the value that it names. -/

namespace QueryRegistry

namespace Yaml

abbrev NodeId := Nat

inductive Content where
  | scalar (text : String)
  | sequence (items : List NodeId)
  | mapping (members : List (NodeId × NodeId))
  deriving DecidableEq, Repr, Inhabited

structure Node where
  tag : Tag
  content : Content
  mark : Mark
  deriving Repr, Inhabited

def Content.kindName : Content → String
  | scalar _ => "scalar"
  | sequence _ => "sequence"
  | mapping _ => "mapping"

abbrev Graph := Array Node

/-- The tokens that remain, what the handles of tags stand for, the values so far, and those that have
names. -/
structure Composing where
  tokens : TokenStream
  handles : List (String × String) := []
  nodes : Graph := #[]
  anchors : List (String × NodeId) := []

abbrev Compose := StateT Composing (Except Stop)

namespace Compose

def standardHandles : List (String × String) := [("!", "!"), ("!!", Tag.standard)]

def peek : Compose Token := do
  liftM (m := Except Stop) (← get).tokens.first

def next : Compose Token := do
  let token ← peek
  modify fun state => { state with tokens := state.tokens.rest }
  return token

def at? (kinds : List TokenKind) : Compose Bool := return kinds.contains (← peek).kind

def skip (kind : TokenKind) : Compose Bool := do
  if ← at? [kind] then
    let _ ← next
    return true
  else return false

def fail {α : Type} (activity : Option (Activity × Option Mark)) (problem : Problem) (mark : Mark) :
    Compose α :=
  throw (.fault (.marked activity problem mark))

def add (tag : Tag) (content : Content) (mark : Mark) : Compose NodeId := do
  let id := (← get).nodes.size
  modify fun state => { state with nodes := state.nodes.push ⟨tag, content, mark⟩ }
  return id

def nothing (mark : Mark) : Compose NodeId := add .null (.scalar "") mark

def markOf (id : NodeId) : Compose Mark := return ((← get).nodes[id]?.map Node.mark).getD {}

def fill (id : NodeId) (content : Content) : Compose Unit :=
  modify fun state => { state with nodes := state.nodes.modify id ({ · with content }) }

structure Properties where
  anchor : Option String := none
  tag : Option (Option String × String × Mark) := none
  /-- Where the first of them begins. -/
  start : Option Mark := none

def properties : Compose Properties := do
  let first ← peek
  match first.kind with
  | .anchor name => do
    let _ ← next
    let second ← peek
    match second.kind with
    | .tag handle suffix => do
      let _ ← next
      return ⟨some name, some (handle, suffix, second.start), some first.start⟩
    | _ => return ⟨some name, none, some first.start⟩
  | .tag handle suffix => do
    let _ ← next
    let second ← peek
    let tag := some (handle, suffix, first.start)
    match second.kind with
    | .anchor name => do
      let _ ← next
      return ⟨some name, tag, some first.start⟩
    | _ => return ⟨none, tag, some first.start⟩
  | _ => return {}

def tagText (start : Mark) : Option (Option String × String × Mark) → Compose (Option String)
  | none => return none
  | some (none, suffix, _) => return some suffix
  | some (some handle, suffix, mark) => do
    match (← get).handles.lookup handle with
    | some text => return some (text ++ suffix)
    | none =>
      fail (some (.node, some start)) (.plain ("found undefined tag handle " ++ quote handle)) mark

/-- A lone exclamation mark says no more than no tag. -/
def tagOr (default : Tag) : Option String → Tag
  | none => default
  | some "!" => default
  | some text => Tag.ofText text

/-- A scalar says by its form what it is if it is plain, or if it is tagged by a lone exclamation
mark. -/
def scalarTag (text : String) (plain : Bool) : Option String → Tag
  | none => if plain then Plain.tag text else .str
  | some "!" => Plain.tag text
  | some tag => Tag.ofText tag

def refuseAnchor (name : String) (mark : Mark) : Compose Unit := do
  if let some first := (← get).anchors.lookup name then
    fail (some (.duplicateAnchor name, some (← markOf first))) (.plain "second occurrence") mark

def addNamed (anchor : Option String) (tag : Tag) (content : Content) (mark : Mark) :
    Compose NodeId := do
  let id ← add tag content mark
  if let some name := anchor then
    modify fun state => { state with anchors := (name, id) :: state.anchors }
  return id

/-- A list or a mapping has its name already while its content is read. -/
def addAround (anchor : Option String) (tag : Tag) (empty : Content) (mark : Mark)
    (content : Compose Content) : Compose NodeId := do
  let id ← addNamed anchor tag empty mark
  fill id (← content)
  return id

def unexpected {α : Type} (activity : Activity) (start : Mark) (problem : String → Problem) :
    Compose α := do
  let token ← peek
  fail (some (activity, some start)) (problem token.kind.describe) token.start

mutual

/-- A value. Some kinds of it are found only in `block` text, and lists without an indent of their own
only where `loose` holds. The first argument bounds the steps into values and along them. -/
def node (block loose : Bool) : Nat → Compose NodeId
  | 0 => do unexpected .node (← peek).start (.expectedToken "the node content")
  | fuel + 1 => do
    let first ← peek
    match first.kind with
    | .reference name =>
      let _ ← next
      match (← get).anchors.lookup name with
      | some id => return id
      | none => fail none (.plain ("found undefined alias " ++ quote name)) first.start
    | _ =>
      let given ← properties
      let token ← peek
      let start := given.start.getD token.start
      let tag ← tagText start given.tag
      if let some name := given.anchor then
        refuseAnchor name start
      let sequence := fun (items : Compose (List NodeId)) =>
        addAround given.anchor (tagOr .seq tag) (.sequence []) start (Content.sequence <$> items)
      let mapping := fun (members : Compose (List (NodeId × NodeId))) =>
        addAround given.anchor (tagOr .map tag) (.mapping []) start (Content.mapping <$> members)
      match token.kind with
      | .scalar text plain => do
        let _ ← next
        addNamed given.anchor (scalarTag text plain tag) (.scalar text) start
      | .flowSequenceStart => do
        let _ ← next
        sequence (flowItems token.start true fuel)
      | .flowMappingStart => do
        let _ ← next
        mapping (flowMembers token.start true fuel)
      | kind =>
        if loose && kind == .blockEntry then sequence (looseItems fuel)
        else if block && kind == .blockSequenceStart then do
          let _ ← next
          sequence (blockItems token.start fuel)
        else if block && kind == .blockMappingStart then do
          let _ ← next
          mapping (blockMembers token.start fuel)
        else if given.anchor.isSome || given.tag.isSome then
          addNamed given.anchor (tagOr .null tag) (.scalar "") start
        else
          unexpected (if block then .blockNode else .flowNode) start
            (.expectedToken "the node content")

def nodeUnless (ends : List TokenKind) (block loose : Bool) (mark : Mark) : Nat → Compose NodeId
  | 0 => do unexpected .node mark (.expectedToken "the node content")
  | fuel + 1 => do
    if ← at? ends then nothing mark else node block loose fuel

def blockItems (start : Mark) : Nat → Compose (List NodeId)
  | 0 => unexpected .blockCollection start (.expectedToken "<block end>")
  | fuel + 1 => do
    let token ← peek
    if ← skip .blockEntry then
      let item ← nodeUnless [.blockEntry, .blockEnd] true false token.stop fuel
      return item :: (← blockItems start fuel)
    else if ← skip .blockEnd then return []
    else unexpected .blockCollection start (.expectedToken "<block end>")

def looseItems : Nat → Compose (List NodeId)
  | 0 => return []
  | fuel + 1 => do
    let token ← peek
    if ← skip .blockEntry then
      let item ← nodeUnless [.blockEntry, .key, .value, .blockEnd] true false token.stop fuel
      return item :: (← looseItems fuel)
    else return []

def blockMembers (start : Mark) : Nat → Compose (List (NodeId × NodeId))
  | 0 => unexpected .blockMapping start (.expectedToken "<block end>")
  | fuel + 1 => do
    let ends := [TokenKind.key, .value, .blockEnd]
    let token ← peek
    if ← skip .key then
      let key ← nodeUnless ends true true token.stop fuel
      let colon ← peek
      let value ←
        if ← skip .value then nodeUnless ends true true colon.stop fuel
        else nothing colon.start
      return (key, value) :: (← blockMembers start fuel)
    else if ← skip .blockEnd then return []
    else unexpected .blockMapping start (.expectedToken "<block end>")

def flowValue (ends : List TokenKind) : Nat → Compose NodeId
  | 0 => do unexpected .flowNode (← peek).start (.expectedToken "the node content")
  | fuel + 1 => do
    let colon ← peek
    if ← skip .value then nodeUnless ends false false colon.stop fuel
    else nothing colon.start

/-- The items of a list in brackets; a pair of key and value is a mapping of its own. -/
def flowItems (start : Mark) (first : Bool) : Nat → Compose (List NodeId)
  | 0 => unexpected .flowSequence start (.gotToken "',' or ']'")
  | fuel + 1 => do
    if ← skip .flowSequenceEnd then return []
    unless first do
      unless ← skip .flowEntry do
        unexpected .flowSequence start (.gotToken "',' or ']'")
    let token ← peek
    if ← skip .key then
      let ends := [TokenKind.flowEntry, .flowSequenceEnd]
      let pair ← addAround none .map (.mapping []) token.start do
        let key ← nodeUnless (.value :: ends) false false token.stop fuel
        let value ← flowValue ends fuel
        return .mapping [(key, value)]
      return pair :: (← flowItems start false fuel)
    else if ← skip .flowSequenceEnd then return []
    else
      let item ← node false false fuel
      return item :: (← flowItems start false fuel)

def flowMembers (start : Mark) (first : Bool) : Nat → Compose (List (NodeId × NodeId))
  | 0 => unexpected .flowMapping start (.gotToken "',' or '\x7d'")
  | fuel + 1 => do
    if ← skip .flowMappingEnd then return []
    unless first do
      unless ← skip .flowEntry do
        unexpected .flowMapping start (.gotToken "',' or '\x7d'")
    let token ← peek
    let ends := [TokenKind.flowEntry, .flowMappingEnd]
    if ← skip .key then
      let key ← nodeUnless (.value :: ends) false false token.stop fuel
      let value ← flowValue ends fuel
      return (key, value) :: (← flowMembers start false fuel)
    else if ← skip .flowMappingEnd then return []
    else
      let key ← node false false fuel
      let after ← peek
      let value ← nothing after.start
      return (key, value) :: (← flowMembers start false fuel)

end

def directives (version : Bool) (handles : List (String × String)) :
    Nat → Compose (List (String × String))
  | 0 => return handles
  | bound + 1 => do
    let token ← peek
    match token.kind with
    | .version major => do
      let _ ← next
      if version then
        fail none (.plain "found duplicate YAML directive") token.start
      if major ≠ 1 then
        fail none (.plain "found incompatible YAML document (version 1.* is required)") token.start
      directives true handles bound
    | .tagHandle handle text => do
      let _ ← next
      if (handles.lookup handle).isSome then
        fail none (.plain ("duplicate tag handle " ++ quote handle)) token.start
      directives version ((handle, text) :: handles) bound
    | .otherDirective => do
      let _ ← next
      directives version handles bound
    | _ => return handles

def documentEnds : Nat → Compose Unit
  | 0 => return ()
  | bound + 1 => do
    if ← skip .documentEnd then documentEnds bound

def documentStart : Compose Unit := do
  let given ← directives false [] (← get).tokens.found.length
  modify ({ · with handles := given ++ standardHandles })
  unless ← skip .documentStart do
    let token ← peek
    fail none (.expectedToken "'<document start>'" token.kind.describe) token.start

def isDirective : TokenKind → Bool
  | .version _ => true
  | .tagHandle _ _ => true
  | .otherDirective => true
  | _ => false

def document : Compose (Option NodeId) := do
  let bound := 4 * (← get).tokens.found.length + 4
  let first ← peek
  if first.kind == .streamEnd then return none
  let value ←
    if isDirective first.kind || first.kind == .documentStart then do
      documentStart
      let token ← peek
      if isDirective token.kind || (← at? [.documentStart, .documentEnd, .streamEnd]) then
        nothing token.start
      else node true false bound
    else do
      modify ({ · with handles := standardHandles })
      node true false bound
  documentEnds bound
  let token ← peek
  unless token.kind == .streamEnd do
    documentStart
    fail (some (.singleDocument, some (← markOf value))) (.plain "but found another document")
      token.start
  return some value

end Compose

def compose (tokens : TokenStream) : Except Stop (Graph × Option NodeId) := do
  let (value, state) ← Compose.document.run { tokens }
  return (state.nodes, value)

end Yaml

end QueryRegistry
