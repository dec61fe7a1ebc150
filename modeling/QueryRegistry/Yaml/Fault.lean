import QueryRegistry.Text.Quoted
import QueryRegistry.Yaml.Cursor

/-! What can be wrong with a YAML text, and how it is reported. Some of what a text can ask for cannot be
made, and there is no report for that. -/

namespace QueryRegistry

namespace Yaml

inductive Activity where
  | simpleKey
  | nextToken
  | directive
  | reference
  | anchor
  | tag
  | tagOf (what : String)
  | blockScalar
  | doubleQuoted
  | quoted
  | node
  | blockNode
  | flowNode
  | blockCollection
  | blockMapping
  | flowSequence
  | flowMapping
  | duplicateAnchor (name : String)
  | singleDocument
  | mapping
  | orderedMap
  | pairs
  deriving DecidableEq, Repr

def Activity.text : Activity → String
  | simpleKey => "while scanning a simple key"
  | nextToken => "while scanning for the next token"
  | directive => "while scanning a directive"
  | reference => "while scanning an alias"
  | anchor => "while scanning an anchor"
  | tag => "while scanning a tag"
  | tagOf what => "while parsing a " ++ what
  | blockScalar => "while scanning a block scalar"
  | doubleQuoted => "while scanning a double-quoted scalar"
  | quoted => "while scanning a quoted scalar"
  | node => "while parsing a node"
  | blockNode => "while parsing a block node"
  | flowNode => "while parsing a flow node"
  | blockCollection => "while parsing a block collection"
  | blockMapping => "while parsing a block mapping"
  | flowSequence => "while parsing a flow sequence"
  | flowMapping => "while parsing a flow mapping"
  | duplicateAnchor name => "found duplicate anchor " ++ quote name ++ "; first occurrence"
  | singleDocument => "expected a single document in the stream"
  | mapping => "while constructing a mapping"
  | orderedMap => "while constructing an ordered map"
  | pairs => "while constructing pairs"

/-- What is wrong. Characters and tokens that were met are told as a report shows them. -/
inductive Problem where
  | expectedChar (what : String) (found : Option Char)
  | expectedToken (what found : String)
  | gotToken (what found : String)
  | plain (text : String)
  deriving DecidableEq, Repr

/-- The end of a text is shown as the character that marks it. -/
def quoteChar? (c : Option Char) : String := quote (String.singleton (c.getD '\x00'))

def Problem.text : Problem → String
  | expectedChar what found => "expected " ++ what ++ ", but found " ++ quoteChar? found
  | expectedToken what found => "expected " ++ what ++ ", but found " ++ quote found
  | gotToken what found => "expected " ++ what ++ ", but got " ++ quote found
  | plain text => text

inductive Fault where
  | character (c : Char) (position : Nat)
  /-- There is more to the text than could be read. -/
  | cutOff
  | marked (activity : Option (Activity × Option Mark)) (problem : Problem) (mark : Mark)
  deriving Repr

def Mark.print (mark : Mark) (name : String) : String :=
  "  in \"" ++ name ++ "\", line " ++ toString (mark.line + 1) ++ ", column " ++
    toString (mark.column + 1)

def hexNumber (n : Nat) : String :=
  String.ofList (hexDigits (max 4 (Nat.toDigits 16 n).length) n)

/-- A report on a fault in the file of the given name. The place where the activity began is left out
if it is that of the problem. -/
def Fault.message (name : String) : Fault → String
  | character c position =>
    "unacceptable character #x" ++ hexNumber c.toNat ++
      ": special characters are not allowed\n  in \"" ++ name ++ "\", position " ++
      toString position
  | cutOff => "the text is cut off"
  | marked activity problem mark =>
    let context := match activity with
      | none => []
      | some (a, none) => [a.text]
      | some (a, some began) =>
        if began.line = mark.line && began.column = mark.column then [a.text]
        else [a.text, began.print name]
    "\n".intercalate (context ++ [problem.text, mark.print name])

/-- What a text asks for that cannot be made. -/
inductive Breakdown where
  | noTruthValue (text : String)
  | noNumber (text : String)
  | emptyNumber
  | longNumber (digits : Nat)
  | greatNumber
  | noTimestamp (text : String)
  | timestampMapping
  | noSuchTime (text : String)
  | noCharacter (number : Nat)
  /-- A mapping is its own text. -/
  | endlessText
  /-- A setting holds a number that is too long to be shown. -/
  | longSetting
  deriving DecidableEq, Repr

def Breakdown.kind : Breakdown → String
  | noTruthValue _ => "KeyError"
  | noNumber _ => "ValueError"
  | emptyNumber => "IndexError"
  | longNumber _ => "ValueError"
  | greatNumber => "OverflowError"
  | noTimestamp _ => "AttributeError"
  | timestampMapping => "TypeError"
  | noSuchTime _ => "ValueError"
  | noCharacter number => if number < 0x80000000 then "ValueError" else "OverflowError"
  | endlessText => "RecursionError"
  | longSetting => "ValueError"

/-- Why the reading of a text comes to no end. -/
inductive Stop where
  | fault (fault : Fault)
  | breakdown (breakdown : Breakdown)
  deriving Repr

end Yaml

end QueryRegistry
