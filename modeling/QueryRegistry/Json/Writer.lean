import QueryRegistry.Text.Hexadecimal

/-! Writing an object of texts as JSON, one member on a line. Only what has to be is escaped. -/

namespace QueryRegistry

namespace Json

def escape (c : Char) : List Char :=
  match c with
  | '"' => ['\\', '"']
  | '\\' => ['\\', '\\']
  | '\n' => ['\\', 'n']
  | '\r' => ['\\', 'r']
  | '\t' => ['\\', 't']
  | '\x08' => ['\\', 'b']
  | '\x0c' => ['\\', 'f']
  | c => if c.toNat < 0x20 then '\\' :: 'u' :: hexDigits 4 c.toNat else [c]

def writeText (text : String) : List Char :=
  '"' :: text.toList.flatMap escape ++ ['"']

def memberBreak : List Char := ['\n', ' ', ' ', ' ']

def writeMember (member : String × String) : List Char :=
  memberBreak ++ writeText member.1 ++ [':', ' '] ++ writeText member.2

def writeMembers : List (String × String) → List Char
  | [] => []
  | [member] => writeMember member
  | member :: rest => writeMember member ++ ',' :: writeMembers rest

def writeObject (members : List (String × String)) : String :=
  String.ofList <|
    if members.isEmpty then ['\x7b', '\x7d']
    else '\x7b' :: writeMembers members ++ ['\n', '\x7d']

end Json

end QueryRegistry
