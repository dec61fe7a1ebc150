import QueryRegistry.Setting.SetOrder
import QueryRegistry.Text.Base64
import QueryRegistry.Yaml.Layout
import QueryRegistry.Yaml.Node

/-! Making settings of the values of a YAML text. A list or a mapping is known by the number of its value
before anything is put into it, so that it can hold itself. They are filled one after the other, in
the order in which they were met. -/

namespace QueryRegistry

namespace Yaml

/-- What stands for a value: a setting, or a list or mapping by its number. Two settings that are no
numbers are the same only if they come from one value, which is told by `own`. -/
inductive Held where
  | single (setting : Setting) (own : Option NodeId)
  | collection (id : NodeId)
  deriving Inhabited

abbrev HeldPairs := List (Held × Held)

namespace Held

def isKey : Held → Bool
  | single _ _ => true
  | collection _ => false

def same : Held → Held → Bool
  | single (.float x) own, single (.float y) other =>
    if x.isNaN && y.isNaN then own == other else x == y
  | single s _, single t _ => Setting.sameKey s t
  | _, _ => false

/-- Puts a member into a mapping: a key that is there keeps its place and takes the new value. -/
def put (members : HeldPairs) (key value : Held) : HeldPairs :=
  match members with
  | [] => [(key, value)]
  | member :: rest =>
    if member.1.same key then (member.1, value) :: rest else member :: put rest key value

end Held

inductive Collection where
  | list (items : List Held)
  | pairs (entries : HeldPairs)
  | mapping (members : HeldPairs)
  | set (items : List Held)
  deriving Inhabited

structure Loading where
  nodes : Graph
  made : List (NodeId × Held) := []
  filled : List (NodeId × Collection) := []
  waiting : List NodeId := []

abbrev Load := StateT Loading (Except Stop)

namespace Load

def node (id : NodeId) : Load Node := return (← get).nodes[id]?.getD default

def refuse {α : Type} (node : Node) (problem : String) : Load α :=
  throw (.fault (.marked none (.plain problem) node.mark))

def refuseIn {α : Type} (activity : Activity) (around node : Node) (problem : String) : Load α :=
  throw (.fault (.marked (some (activity, some around.mark)) (.plain problem) node.mark))

def expected {α : Type} (kind : String) (node : Node) : Load α :=
  refuse node ("expected a " ++ kind ++ " node, but found " ++ node.content.kindName)

/-! ### Settings -/

/-- The text of a scalar. A mapping has the text that it holds under an equals sign. The first argument
bounds the way through mappings. -/
def textOf : Nat → Node → Load String
  | 0, _ => throw (.breakdown .endlessText)
  | bound + 1, found => do
    match found.content with
    | .scalar text => return text
    | .sequence _ => expected "scalar" found
    | .mapping members =>
      let nodes := (← get).nodes
      match members.find? fun (key, _) => nodes[key]?.any (·.tag = .value) with
      | some (_, value) => textOf bound (← node value)
      | none => expected "scalar" found

/-- A setting that is not the same as any that comes from another value. -/
def fresh (id : NodeId) (setting : Setting) : Held := .single setting (some id)

def valued {α : Type} (value : Except Breakdown α) : Load α := liftM (value.mapError Stop.breakdown)

def scalar (id : NodeId) (found : Node) (text : String) : Load Held := do
  let chars := text.toList
  match found.tag with
  | .null => return fresh id .null
  | .bool => return fresh id (.boolean (← valued (Plain.boolValue chars)))
  | .int => return fresh id (.int (← valued (Plain.intValue chars)))
  | .float =>
    if Plain.isNotANumber chars then return .single (.float notANumber) none
    else return fresh id (.float (← valued (Plain.floatValue chars)))
  | .timestamp =>
    if let .mapping _ := found.content then
      throw (.breakdown .timestampMapping)
    return fresh id (← valued (Plain.timestampValue chars))
  | .binary =>
    match Base64.decode chars with
    | .ok bytes => return fresh id (.bytes bytes)
    | .error fault => refuse found fault.message
  | .str => return fresh id (.text text)
  | tag => refuse found ("could not determine a constructor for the tag " ++ quote tag.text)

/-- What stands for a value. Each is made once, by whatever way it is come to. -/
def make (id : NodeId) : Load Held := do
  match (← get).made.lookup id with
  | some held => return held
  | none =>
    let found ← node id
    let held ←
      if [Tag.seq, .map, .set, .orderedMap, .pairs].contains found.tag then do
        modify fun state => { state with waiting := state.waiting ++ [id] }
        pure (Held.collection id)
      else if [Tag.null, .bool, .int, .float, .timestamp, .binary, .str].contains found.tag then do
        scalar id found (← textOf ((← get).nodes.size + 1) found)
      else scalar id found ""
    modify fun state => { state with made := (id, held) :: state.made }
    return held

/-! ### Mappings within mappings -/

def membersOf (id : NodeId) : Load (List (NodeId × NodeId)) := do
  match (← node id).content with
  | .mapping members => return members
  | _ => return []

def setMembers (id : NodeId) (members : List (NodeId × NodeId)) : Load Unit :=
  modify fun state =>
    { state with nodes := state.nodes.modify id ({ · with content := .mapping members }) }

/-- An equals sign is a text where it stands as a key. -/
def keyAsText (key : NodeId) : Load Unit :=
  modify fun state => { state with nodes := state.nodes.modify key fun node =>
    if node.tag = .value then { node with tag := .str } else node }

mutual

/-- Puts in front of the members of a mapping those that it takes over. The first argument bounds the
members that say what is taken over; each goes when its turn comes. -/
def takeOver : Nat → NodeId → Load Unit
  | 0, _ => return ()
  | bound + 1, id => do
    let taken ← takeOverFrom bound id 0
    unless taken.isEmpty do
      setMembers id (taken ++ (← membersOf id))

/-- The members that a mapping takes over from the given place on. Of several mappings in a list the
first holds against those after it. -/
def takeOverFrom : Nat → NodeId → Nat → Load (List (NodeId × NodeId))
  | 0, _, _ => return []
  | bound + 1, id, start => do
    let members ← membersOf id
    let nodes := (← get).nodes
    let passed := (members.drop start).takeWhile fun (key, _) =>
      !nodes[key]?.any (·.tag = .merge)
    for (key, _) in passed do
      keyAsText key
    let place := start + passed.length
    match members[place]? with
    | none => return []
    | some (_, value) =>
      setMembers id (members.eraseIdx place)
      let here ← node id
      let found ← node value
      let taken ←
        match found.content with
        | .mapping _ => do
          takeOver bound value
          membersOf value
        | .sequence items => do
          let each ← items.mapM fun item => do
            let found ← node item
            match found.content with
            | .mapping _ => do
              takeOver bound item
              membersOf item
            | content =>
              refuseIn .mapping here found
                ("expected a mapping for merging, but found " ++ content.kindName)
          pure each.reverse.flatten
        | .scalar _ =>
          refuseIn .mapping here found
            "expected a mapping or list of mappings for merging, but found scalar"
      return taken ++ (← takeOverFrom bound id place)

end

/-! ### Lists and mappings -/

/-- The members of a mapping, with those that it takes over. -/
def members (id : NodeId) : Load HeldPairs := do
  let found ← node id
  match found.content with
  | .mapping _ =>
    let entries := (← get).nodes.foldl (fun n node => match node.content with
      | .mapping members => n + members.length
      | _ => n) 1
    takeOver (2 * entries) id
    let mut held := []
    for (key, value) in ← membersOf id do
      let name ← make key
      unless name.isKey do
        refuseIn .mapping found (← node key) "found unhashable key"
      held := Held.put held name (← make value)
    return held
  | _ => expected "mapping" found

def entries (activity : Activity) (found : Node) : Load HeldPairs := do
  match found.content with
  | .sequence items =>
    items.mapM fun item => do
      let entry ← node item
      match entry.content with
      | .mapping [(key, value)] => return (← make key, ← make value)
      | .mapping members =>
        refuseIn activity found entry
          ("expected a single mapping item, but found " ++ toString members.length ++ " items")
      | content =>
        refuseIn activity found entry
          ("expected a mapping of length 1, but found " ++ content.kindName)
  | content => refuseIn activity found found ("expected a sequence, but found " ++ content.kindName)

def items (found : Node) : Load (List Held) := do
  match found.content with
  | .sequence items => items.mapM make
  | _ => expected "sequence" found

def collection (id : NodeId) : Load Collection := do
  let found ← node id
  match found.tag with
  | .seq => return .list (← items found)
  | .orderedMap => return .pairs (← entries .orderedMap found)
  | .pairs => return .pairs (← entries .pairs found)
  | .set => return .set ((← members id).map Prod.fst)
  | _ => return .mapping (← members id)

/-- Fills lists and mappings until none is waiting. Each waits once. -/
def fillAll : Nat → Load Unit
  | 0 => return ()
  | bound + 1 => do
    match (← get).waiting with
    | [] => return ()
    | id :: rest =>
      modify ({ · with waiting := rest })
      let filled ← collection id
      modify fun state => { state with filled := (id, filled) :: state.filled }
      fillAll bound

end Load

/-! ### What a text holds -/

structure Loaded where
  value : Held
  filled : List (NodeId × Collection) := []

namespace Loaded

/-- The setting that stands for a value. A list or mapping that stands within itself is not gone
through again there. The first argument bounds how deep they stand in each other. -/
def unfold (loaded : Loaded) : Nat → List NodeId → Held → Setting
  | _, _, .single setting _ => setting
  | 0, _, .collection _ => .null
  | bound + 1, around, .collection id =>
    let inner := unfold loaded bound (id :: around)
    let pairs := fun (members : HeldPairs) => members.map fun (a, b) => (inner a, inner b)
    let within := around.contains id
    match loaded.filled.lookup id with
    | none => .null
    | some (.list items) => if within then .listWithin else .list (items.map inner)
    | some (.pairs entries) => if within then .listWithin else .pairs (pairs entries)
    | some (.mapping members) => if within then .mappingWithin else .mapping (pairs members)
    | some (.set items) => .set (setOrder (items.map inner))

def setting (loaded : Loaded) (held : Held) : Setting :=
  loaded.unfold (loaded.filled.length + 1) [] held

def member? (loaded : Loaded) (key : String) : Option Setting :=
  match loaded.value with
  | .single _ _ => none
  | .collection id =>
    match loaded.filled.lookup id with
    | some (.mapping members) =>
      (members.find? fun member => member.1.same (.single (.text key) none)).map fun member =>
        loaded.setting member.2
    | _ => none

end Loaded

def loadNode (nodes : Graph) (id : NodeId) : Except Stop Loaded := do
  let make : Load Held := do
    let held ← Load.make id
    Load.fillAll (nodes.size + 1)
    return held
  let (value, state) ← make.run { nodes }
  return ⟨value, state.filled⟩

/-- What a text holds; an empty one holds nothing. -/
def load (text : List Char) : Except Stop Loaded := do
  match ← compose (tokens text) with
  | (_, none) => return ⟨.single .null none, []⟩
  | (nodes, some id) => loadNode nodes id

end Yaml

end QueryRegistry
