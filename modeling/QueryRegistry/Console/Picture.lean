import QueryRegistry.Console.PictureTable
import QueryRegistry.Text.Numeral

/-! Codes of pictures. A code is a name between two colons; behind the name it may be said whether the
picture is to look like a drawing or like a letter. A code without a picture stays as it is. -/

namespace QueryRegistry

namespace Console

def lowerCase (c : Char) : Char :=
  let n := c.toNat
  if 0xC0 ≤ n ∧ n ≤ 0xDE ∧ n ≠ 0xD7 then Char.ofNat (n + 0x20)
  else if n = 0x212A then 'k'
  else if n = 0x212B then 'å'
  else c.toLower

def picture? (name : List Char) : Option String :=
  pictures.lookup (String.ofList (name.map lowerCase))

def looks : List (List Char × Char) :=
  [("-emoji:".toList, '\uFE0F'), ("-text:".toList, '\uFE0E')]

structure Code where
  name : List Char
  look : Option Char
  written : List Char

/-- The code whose first colon stands in front of a text. It ends at the next colon, before which there
is no blank. -/
def code? : List Char → Option Code
  | [] => none
  | c :: rest =>
    match looks.find? fun (word, _) => word.isPrefixOf (c :: rest) with
    | some (word, look) => some ⟨[], some look, word⟩
    | none =>
      if c = ':' then some ⟨[], none, [c]⟩
      else if isBlank c then none
      else (code? rest).map fun code => { code with name := c :: code.name, written := c :: code.written }

def Code.shown (code : Code) : List Char :=
  match picture? code.name with
  | some picture => picture.toList ++ code.look.toList
  | none => ':' :: code.written

/-- Shows pictures in place of their codes. So many characters are passed as they are. -/
def showPicturesFrom (passed : Nat) : List Char → List Char
  | [] => []
  | c :: rest =>
    match passed, c with
    | n + 1, _ => showPicturesFrom n rest
    | 0, ':' =>
      match code? rest with
      | some code => code.shown ++ showPicturesFrom code.written.length rest
      | none => ':' :: showPicturesFrom 0 rest
    | 0, c => c :: showPicturesFrom 0 rest

def showPictures (text : List Char) : List Char := showPicturesFrom 0 text

end Console

end QueryRegistry
