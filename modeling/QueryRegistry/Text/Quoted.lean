import QueryRegistry.Text.Hexadecimal
import QueryRegistry.Text.Printable

/-! Texts as a report quotes them: between single quotes, or between double quotes if only single
ones stand in the text, with what cannot be printed written by its number. -/

namespace QueryRegistry

namespace Quoted

def delimiter (text : List Char) : Char :=
  if text.contains '\'' && !text.contains '"' then '"' else '\''

def numbered (n : Nat) : List Char :=
  if n < 0x100 then '\\' :: 'x' :: hexDigits 2 n
  else if n < 0x10000 then '\\' :: 'u' :: hexDigits 4 n
  else '\\' :: 'U' :: hexDigits 8 n

def character (delimiter c : Char) : List Char :=
  if c == '\\' || c == delimiter then ['\\', c]
  else if c == '\n' then ['\\', 'n']
  else if c == '\r' then ['\\', 'r']
  else if c == '\t' then ['\\', 't']
  else if isPrintable c then [c]
  else numbered c.toNat

/-- A byte is written like a character if there is one in ASCII. -/
def byte (delimiter : Char) (b : UInt8) : List Char :=
  if b < 0x7F then character delimiter (Char.ofNat b.toNat) else numbered b.toNat

end Quoted

def quote (text : String) : String :=
  let chars := text.toList
  let d := Quoted.delimiter chars
  String.ofList (d :: chars.flatMap (Quoted.character d) ++ [d])

/-- Bytes have a letter in front that tells them from a text. -/
def quoteBytes (bytes : List UInt8) : String :=
  let d := Quoted.delimiter (bytes.map fun b => Char.ofNat b.toNat)
  String.ofList ('b' :: d :: bytes.flatMap (Quoted.byte d) ++ [d])

end QueryRegistry
