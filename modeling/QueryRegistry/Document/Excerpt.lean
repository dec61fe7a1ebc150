import QueryRegistry.Document.SyntaxFault

/-! The part of a text that is shown with an error: the line it stands on, between the lines next to
it, or cut into pieces if it is long, and a caret under the place. -/

namespace QueryRegistry

namespace Excerpt

structure Row where
  number : Option Nat
  text : List Char
  deriving DecidableEq, Repr

def Row.margin (row : Row) : List Char := (row.number.elim "" toString).toList

/-- The margin has a width of its own for all rows. Behind the bar of an empty line there is
nothing. -/
def Row.write (width : Nat) (row : Row) : List Char :=
  List.replicate (width - row.margin.length) ' ' ++ row.margin ++ [' ', '|'] ++
    if row.text = [] then [] else ' ' :: row.text

def writeRows (rows : List Row) : List Char :=
  let width := (rows.map fun row => row.margin.length).foldl max 0
  joinLines (rows.map (Row.write width))

/-- A caret with blanks in front, so that it is as wide as the column it stands in. -/
def caret (column : Nat) : List Char :=
  List.replicate (column - 1) ' ' ++ ['^']

def pieceWidth : Nat := 80

def longestLine : Nat := 120

def pieces (line : List Char) : List (List Char) :=
  (List.range ((line.length + pieceWidth - 1) / pieceWidth)).map fun i =>
    (line.drop (pieceWidth * i)).take pieceWidth

def longRows (line : List Char) (place : Location) : List Row :=
  let parts := pieces line
  let last := place.column / pieceWidth
  ⟨some place.line, parts.headD []⟩ :: ((parts.drop 1).take last).map (Row.mk none) ++
    ⟨none, caret (place.column % pieceWidth)⟩ :: parts[last + 1]?.toList.map (Row.mk none)

def shortRows (lines : List (List Char)) (line : List Char) (place : Location) : List Row :=
  let before := if place.line ≤ 1 then none else lines[place.line - 2]?
  before.toList.map (Row.mk (some (place.line - 1))) ++
    [⟨some place.line, line⟩, ⟨none, caret place.column⟩] ++
    lines[place.line]?.toList.map (Row.mk (some (place.line + 1)))

end Excerpt

def excerpt (text : List Char) (place : Location) : List Char :=
  let lines := splitLines text
  let line := lines[place.line - 1]?.getD []
  Excerpt.writeRows <|
    if Excerpt.longestLine < line.length then Excerpt.longRows line place
    else Excerpt.shortRows lines line place

def SyntaxError.report (error : SyntaxError) (text : String) : String :=
  error.message ++ "\n\nGraphQL request:" ++ toString error.location.line ++ ":" ++
    toString error.location.column ++ "\n" ++
    String.ofList (excerpt text.toList error.location)

end QueryRegistry
