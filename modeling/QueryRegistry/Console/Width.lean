import QueryRegistry.Console.WidthTable

/-! How much room a line of text takes on a console, and the stops to which its tabs go on. -/

namespace QueryRegistry

namespace Console

def isIn (ranges : List (Nat × Nat)) (c : Char) : Bool :=
  ranges.any fun (first, last) => first ≤ c.toNat && c.toNat ≤ last

def cells (c : Char) : Nat :=
  if isIn emptyRanges c then 0 else if isIn wideRanges c then 2 else 1

def joiner : Char := '\u200d'

def pictureSign : Char := '\ufe0f'

structure Pen where
  /-- The cells in front of it. -/
  column : Nat
  /-- The last character that took room, as long as it was not asked to be a picture. -/
  last : Option Char := none
  /-- Whether the next character is drawn within the last one. -/
  isJoined : Bool := false
  deriving DecidableEq, Repr

/-- Of two signs that ask for the same picture the second finds no character to widen. -/
def Pen.draw (pen : Pen) (c : Char) : Pen :=
  if pen.isJoined then { pen with isJoined := false }
  else if c = joiner then { pen with isJoined := true }
  else if c = pictureSign then
    let more := if pen.last.any (isIn picturableRanges) then 1 else 0
    { pen with column := pen.column + more, last := none }
  else if cells c = 0 then pen
  else { pen with column := pen.column + cells c, last := some c }

def tabWidth : Nat := 8

def stopFrom (column : Nat) : Nat := (column + (tabWidth - 1)) / tabWidth * tabWidth

/-- Writes a tab as one blank, which is drawn like any character, and as many more as lead to the
next stop. What stands in front of a stop does not join with what stands behind it. -/
def fillTabsFrom (pen : Pen) : List Char → List Char
  | [] => []
  | c :: rest =>
    if c = '\t' then
      let column := (pen.draw ' ').column
      let stop := stopFrom column
      List.replicate (stop - column + 1) ' ' ++ fillTabsFrom { column := stop } rest
    else c :: fillTabsFrom (if c = '\n' then { column := 0 } else pen.draw c) rest

def fillTabs (text : List Char) : List Char := fillTabsFrom { column := 0 } text

end Console

end QueryRegistry
