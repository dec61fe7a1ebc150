import QueryRegistry.Console.Picture
import QueryRegistry.Console.Width

/-! Text with marks in it for a console. A mark is a word in brackets, such as the name of a colour. With
an odd number of backslashes in front it is no mark but a text that looks like one; of backslashes in
front of such a word two stand for one. -/

namespace QueryRegistry

namespace Console

inductive Piece where
  | plain (text : List Char)
  | word (backslashes : Nat) (body : List Char)
  deriving DecidableEq, Repr

def Piece.bracketed (body : List Char) : List Char := '[' :: body ++ [']']

def beginsWord (c : Char) : Bool := ('a' ≤ c && c ≤ 'z') || c == '#' || c == '/' || c == '@'

def word? : List Char → Option (List Char × List Char)
  | [] => none
  | c :: rest =>
    let inside := fun (d : Char) => d != '[' && d != ']'
    match beginsWord c, rest.dropWhile inside with
    | true, ']' :: after => some (c :: rest.takeWhile inside, after)
    | _, _ => none

theorem length_word? {text body after : List Char} (h : word? text = some (body, after)) :
    after.length < text.length := by
  cases text with
  | nil => simp [word?] at h
  | cons c rest =>
    unfold word? at h
    dsimp only at h
    split at h
    next heq =>
      have hle := (List.dropWhile_suffix (l := rest) fun d => d != '[' && d != ']').length_le
      simp only [Option.some.injEq, Prod.mk.injEq] at h
      rw [heq, h.2] at hle
      simp only [List.length_cons] at hle ⊢
      omega
    next => simp at h

def addPlain (text : List Char) : List Piece → List Piece
  | .plain more :: rest => .plain (text ++ more) :: rest
  | pieces => .plain text :: pieces

def piecesFrom (backslashes : Nat) (text : List Char) : List Piece :=
  let before := List.replicate backslashes '\\'
  match text with
  | [] => if backslashes = 0 then [] else [.plain before]
  | '\\' :: rest => piecesFrom (backslashes + 1) rest
  | '[' :: rest =>
    match _h : word? rest with
    | some (body, after) => .word backslashes body :: piecesFrom 0 after
    | none => addPlain (before ++ ['[']) (piecesFrom 0 rest)
  | c :: rest => addPlain (before ++ [c]) (piecesFrom 0 rest)
termination_by text.length
decreasing_by
  · simp
  · have := length_word? _h
    simp only [List.length_cons]
    omega
  · simp
  · simp

def pieces (text : List Char) : List Piece := piecesFrom 0 text

def Piece.escape : Piece → List Char
  | plain text => text
  | word backslashes body => List.replicate (2 * backslashes + 1) '\\' ++ bracketed body

/-- A text that is to be shown as it is. A lone backslash at its end must not bear on what follows. -/
def escape (text : List Char) : List Char :=
  let escaped := (pieces text).flatMap Piece.escape
  match escaped.reverse with
  | '\\' :: '\\' :: _ => escaped
  | '\\' :: _ => escaped ++ ['\\']
  | _ => escaped

/-- A bracket that begins no word may have a backslash in front all the same, which is not shown. -/
def dropEscapes : List Char → List Char
  | '\\' :: '[' :: rest => '[' :: dropEscapes rest
  | c :: rest => c :: dropEscapes rest
  | [] => []

def Piece.shown : Piece → List Char
  | plain text => showPictures (dropEscapes text)
  | word backslashes body =>
    List.replicate (backslashes / 2) '\\' ++
      if backslashes % 2 = 1 then showPictures (bracketed body) else []

/-- Bells and the moves of the cursor that a text must not make. -/
def isStripped (c : Char) : Bool :=
  ['\x07', '\x08', '\x0b', '\x0c', '\x0d'].contains c

def shown (text : List Char) : List Char :=
  fillTabs (((pieces text).flatMap Piece.shown).filter fun c => !isStripped c)

def errorLine (message : String) : String :=
  let marked := "[red]Error: ".toList ++ escape message.toList ++ "[/red]".toList
  String.ofList (shown marked) ++ "\n"

end Console

end QueryRegistry
