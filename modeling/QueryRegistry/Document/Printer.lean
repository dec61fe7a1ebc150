import QueryRegistry.Document.Basic
import QueryRegistry.Document.BlockText
import QueryRegistry.Text.Hexadecimal
import QueryRegistry.Text.Lines

/-! Writing documents. A definition has one text, whatever the text it was read from looked like:
blanks, commas and comments are gone, and each selection stands on a line of its own. -/

namespace QueryRegistry

def quotedChar (c : Char) : List Char :=
  match c with
  | '"' => ['\\', '"']
  | '\\' => ['\\', '\\']
  | '\x08' => ['\\', 'b']
  | '\t' => ['\\', 't']
  | '\n' => ['\\', 'n']
  | '\x0c' => ['\\', 'f']
  | '\r' => ['\\', 'r']
  | c =>
    if c.toNat < 0x20 || (0x7F ≤ c.toNat && c.toNat ≤ 0x9F) then
      '\\' :: 'u' :: upperHexDigits 4 c.toNat
    else [c]

namespace Quotation

def print (quotation : Quotation) : String :=
  if quotation.block then
    "\"\"\"" ++ String.ofList (layOutBlock quotation.text.toList) ++ "\"\"\""
  else "\"" ++ String.ofList (quotation.text.toList.flatMap quotedChar) ++ "\""

/-- A description stands on a line in front of what it describes. -/
def printAbove : Option Quotation → String
  | none => ""
  | some quotation => wrapText "" quotation.print "\n"

end Quotation

namespace Value

mutual

def print : Value → String
  | .variable name => "$" ++ name
  | .int digits => digits
  | .float digits => digits
  | .quoted quotation => quotation.print
  | .boolean true => "true"
  | .boolean false => "false"
  | .null => "null"
  | .enum name => name
  | .list items => "[" ++ joinTexts ", " (printItems items) ++ "]"
  | .object fields => "\x7b" ++ joinTexts ", " (printFields fields) ++ "\x7d"

def printItems : List Value → List String
  | [] => []
  | item :: rest => print item :: printItems rest

def printFields : List (String × Value) → List String
  | [] => []
  | (name, value) :: rest => (name ++ ": " ++ print value) :: printFields rest

end

end Value

def printArguments (arguments : Arguments) : List String :=
  arguments.map fun (name, value) => name ++ ": " ++ value.print

namespace Directive

def print (directive : Directive) : String :=
  "@" ++ directive.name ++ wrapText "(" (joinTexts ", " (printArguments directive.arguments)) ")"

def printAll (directives : List Directive) : String :=
  joinTexts " " (directives.map print)

end Directive

def TypeReference.print : TypeReference → String
  | .named name => name
  | .list item => "[" ++ item.print ++ "]"
  | .nonNull type => type.print ++ "!"

namespace VariableDefinition

def print (definition : VariableDefinition) : String :=
  Quotation.printAbove definition.description ++ "$" ++ definition.name ++ ": " ++
    definition.type.print ++ wrapText " = " ((definition.default.map Value.print).getD "") "" ++
    wrapText " " (Directive.printAll definition.directives) ""

end VariableDefinition

namespace Selection

def maxLine : Nat := 80

def printCall (call : String) (arguments : List String) : String :=
  let inLine := joinTexts ", " arguments
  if maxLine < call.length + inLine.length + 2 then
    call ++ wrapText "(\n" (indentText (joinTexts "\n" arguments)) "\n)"
  else call ++ wrapText "(" inLine ")"

def printLabel : Option String → String
  | none => ""
  | some label => wrapText "" label ": "

mutual

def print : Selection → String
  | .field label name arguments directives selections =>
    let call := printLabel label ++ name
    (if arguments.isEmpty then call else printCall call (printArguments arguments)) ++
      wrapText " " (Directive.printAll directives) "" ++ wrapText " " (printSet selections) ""
  | .spread name directives => "..." ++ name ++ wrapText " " (Directive.printAll directives) ""
  | .inline condition directives selections =>
    joinTexts " " ["...", wrapText "on " (condition.getD "") "", Directive.printAll directives,
      printSet selections]

def printSet : Option (List Selection) → String
  | none => ""
  | some selections => blockOf (printList selections)

def printList : List Selection → List String
  | [] => []
  | selection :: rest => print selection :: printList rest

end

end Selection

def OperationKind.word : OperationKind → String
  | query => "query"
  | mutation => "mutation"
  | subscription => "subscription"

/-- Variables in parentheses, on lines of their own if one of them takes several lines. -/
def printParameters (parameters : List VariableDefinition) : String :=
  let parts := parameters.map VariableDefinition.print
  if parts.any (·.toList.contains '\n') then wrapText "(\n" (joinTexts "\n" parts) "\n)"
  else wrapText "(" (joinTexts ", " parts) ")"

namespace Operation

def heading (operation : Operation) : String :=
  Quotation.printAbove operation.description ++
    joinTexts " " [operation.kind.word,
      operation.name.getD "" ++ printParameters operation.parameters,
      Directive.printAll operation.directives]

/-- A query with nothing in front of its selections is written without the word. -/
def print (operation : Operation) : String :=
  if operation.heading = "query" then Selection.printSet operation.selections
  else operation.heading ++ " " ++ Selection.printSet operation.selections

end Operation

namespace Fragment

def print (fragment : Fragment) : String :=
  Quotation.printAbove fragment.description ++ "fragment " ++ fragment.name ++
    wrapText "(" (joinTexts ", " (fragment.parameters.map VariableDefinition.print)) ")" ++
    " on " ++ fragment.condition ++ " " ++
    wrapText "" (Directive.printAll fragment.directives) " " ++
    Selection.printSet fragment.selections

end Fragment

namespace Executable

def print : Executable → String
  | operation op => op.print
  | fragment f => f.print

def printAll (definitions : List Executable) : String :=
  "\n".intercalate (definitions.map print)

end Executable

end QueryRegistry
