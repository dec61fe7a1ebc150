import QueryRegistry.Setting.Basic
import QueryRegistry.Text.Hexadecimal
import QueryRegistry.Text.Numeral
import QueryRegistry.Yaml.Fault

/-! What plain scalars stand for. A plain scalar is a text unless it has one of the forms that truth
values, numbers, dates and a few others have. -/

namespace QueryRegistry

namespace Yaml

/-- The kinds of values, by the ends of their tags. -/
inductive Tag where
  | null
  | bool
  | int
  | float
  | timestamp
  | merge
  | value
  | str
  | binary
  | seq
  | map
  | set
  | orderedMap
  | pairs
  | other (text : String)
  deriving DecidableEq, Repr, Inhabited

def Tag.standard : String := "tag:yaml.org,2002:"

def Tag.names : List (String × Tag) :=
  [("null", null), ("bool", bool), ("int", int), ("float", float), ("timestamp", timestamp),
    ("merge", merge), ("value", value), ("str", str), ("binary", binary), ("seq", seq), ("map", map),
    ("set", set), ("omap", orderedMap), ("pairs", pairs)]

def Tag.ofText (text : String) : Tag :=
  ((names.find? fun (name, _) => standard ++ name = text).map Prod.snd).getD (other text)

def Tag.text : Tag → String
  | other text => text
  | tag => standard ++ ((names.find? (·.2 = tag)).map Prod.fst).getD ""

namespace Plain

def digit (c : Char) : Bool := '0' ≤ c && c ≤ '9'

def digitOrLine (c : Char) : Bool := digit c || c == '_'

def octalOrLine (c : Char) : Bool := ('0' ≤ c && c ≤ '7') || c == '_'

def hexOrLine (c : Char) : Bool :=
  digitOrLine c || ('a' ≤ c && c ≤ 'f') || ('A' ≤ c && c ≤ 'F')

def binaryOrLine (c : Char) : Bool := c == '0' || c == '1' || c == '_'

def truthWords : List String := ["yes", "Yes", "YES", "true", "True", "TRUE", "on", "On", "ON"]

def falsehoodWords : List String :=
  ["no", "No", "NO", "false", "False", "FALSE", "off", "Off", "OFF"]

def nullWords : List String := ["", "~", "null", "Null", "NULL"]

def dropSign : List Char → List Char
  | '-' :: rest => rest
  | '+' :: rest => rest
  | text => text

def isSexagesimal : List Char → Bool
  | ':' :: a :: ':' :: rest => digit a && isSexagesimal (':' :: rest)
  | ':' :: a :: b :: ':' :: rest =>
    '0' ≤ a && a ≤ '5' && digit b && isSexagesimal (':' :: rest)
  | [':', a] => digit a
  | [':', a, b] => '0' ≤ a && a ≤ '5' && digit b
  | _ => false

def digitsThen (first : Char → Bool) (rest : List Char → Bool) : List Char → Bool
  | [] => false
  | c :: cs => first c && rest (cs.dropWhile digitOrLine)

def isInt (text : List Char) : Bool :=
  match dropSign text with
  | '0' :: 'b' :: rest => !rest.isEmpty && rest.all binaryOrLine
  | '0' :: 'x' :: rest => !rest.isEmpty && rest.all hexOrLine
  | '0' :: rest => rest.all octalOrLine
  | rest =>
    digitsThen (fun c => '1' ≤ c && c ≤ '9') (fun after => after.isEmpty || isSexagesimal after) rest

def isExponent : List Char → Bool
  | [] => true
  | mark :: sign :: rest =>
    (mark == 'e' || mark == 'E') && (sign == '-' || sign == '+') && !rest.isEmpty && rest.all digit
  | _ => false

def infinityWords : List String := [".inf", ".Inf", ".INF"]

def notANumberWords : List String := [".nan", ".NaN", ".NAN"]

/-- The colon part of a float in base sixty ends at the point. -/
def isSexagesimalFraction (text : List Char) : Bool :=
  let whole := text.takeWhile (· != '.')
  let rest := text.dropWhile (· != '.')
  isSexagesimal whole && !rest.isEmpty && (rest.drop 1).all digitOrLine

def isFloat (text : List Char) : Bool :=
  let unsigned := dropSign text
  let isPoint := fun (after : List Char) =>
    match after with
    | '.' :: rest => isExponent (rest.dropWhile digitOrLine)
    | _ => false
  digitsThen digit (fun after => isPoint after || isSexagesimalFraction after) unsigned ||
    (match text with
      | '.' :: rest => digitsThen digit isExponent rest
      | _ => false) ||
    infinityWords.contains (String.ofList unsigned) ||
    notANumberWords.contains (String.ofList text)

/-- The parts of a timestamp: the fields before the zone, the digits of the fraction, and the zone,
given by its sign, hours and minutes, or as universal time. -/
structure Stamp where
  fields : List (List Char)
  fraction : List Char := []
  zone : Option (List Char × List Char × List Char) := none

def isGap (c : Char) : Bool := c == ' ' || c == '\t'

def digitsUpTo (most : Nat) (text : List Char) : List Char × List Char :=
  let digits := (text.take most).takeWhile digit
  (digits, text.drop digits.length)

def zone? (text : List Char) : Option (Option (List Char × List Char × List Char)) :=
  if text.isEmpty then some none
  else
    match text.dropWhile isGap with
    | ['Z'] => some (some ([], [], []))
    | sign :: rest =>
      if sign == '-' || sign == '+' then
        let (hours, rest) := digitsUpTo 2 rest
        if hours.isEmpty then none
        else
          match rest with
          | [] => some (some ([sign], hours, []))
          | [':', a, b] => if digit a && digit b then some (some ([sign], hours, [a, b])) else none
          | _ => none
      else none
    | [] => none

def clock? (date : List (List Char)) (text : List Char) : Option Stamp :=
  let afterGap := text.dropWhile isGap
  let start :=
    match text with
    | 'T' :: rest => some rest
    | 't' :: rest => some rest
    | _ => if afterGap.length < text.length then some afterGap else none
  match start with
  | none => none
  | some text =>
    let (hour, rest) := digitsUpTo 2 text
    if hour.isEmpty then none
    else
      match rest with
      | ':' :: m1 :: m2 :: ':' :: s1 :: s2 :: rest =>
        if [m1, m2, s1, s2].all digit then
          let fields := date ++ [hour, [m1, m2], [s1, s2]]
          match rest with
          | '.' :: rest =>
            (zone? (rest.dropWhile digit)).map fun zone => ⟨fields, rest.takeWhile digit, zone⟩
          | rest => (zone? rest).map fun zone => ⟨fields, [], zone⟩
        else none
      | _ => none

/-- A date alone has two digits for its month and its day; with a time of day one will do. -/
def stamp? (text : List Char) : Option Stamp :=
  let (year, rest) := digitsUpTo 4 text
  match decide (year.length = 4), rest with
  | true, '-' :: rest =>
    let (month, rest) := digitsUpTo 2 rest
    match month.isEmpty, rest with
    | false, '-' :: rest =>
      let (day, rest) := digitsUpTo 2 rest
      if day.isEmpty then none
      else if rest.isEmpty then some ⟨[year, month, day], [], none⟩
      else clock? [year, month, day] rest
    | _, _ => none
  | _, _ => none

def isTimestamp (text : List Char) : Bool :=
  match stamp? text with
  | some ⟨[_, month, day], _, _⟩ => month.length = 2 && day.length = 2
  | some _ => true
  | none => false

def dropLineFeed (text : List Char) : List Char :=
  match text.reverse with
  | '\n' :: c :: rest => (c :: rest).reverse
  | _ => text

/-- What a text stands for by its form. A line feed at its end makes no difference. -/
def tag (text : String) : Tag :=
  let chars := dropLineFeed text.toList
  let word := String.ofList chars
  if nullWords.contains word then .null
  else if truthWords.contains word || falsehoodWords.contains word then .bool
  else if isInt chars then .int
  else if isFloat chars then .float
  else if isTimestamp chars then .timestamp
  else if word = "<<" then .merge
  else if word = "=" then .value
  else .str

/-! ### The values of scalars -/

def isMargin (c : Char) : Bool := c == ' ' || (0x9 ≤ c.toNat && c.toNat ≤ 0xD)

def dropMargin (text : List Char) : List Char := text.dropWhile isMargin

def bareNumeral (text : List Char) : List Char :=
  (dropMargin (dropMargin (plainNumeral text)).reverse).reverse

def isNegative (text : List Char) : Bool := text.head? == some '-'

def basedNumber (base : Nat) (digits : List Char) : Nat :=
  digits.foldl (fun n c => base * n + (hexDigit? c).getD 0) 0

def dropBase (base : Nat) : List Char → List Char
  | '0' :: mark :: rest =>
    if [(2, 'b'), (8, 'o'), (16, 'x')].contains (base, mark.toLower) then rest else '0' :: mark :: rest
  | text => text

/-- The whole number that digits of a base spell, with a sign in front or none, and blanks around. -/
def wholeIn (base : Nat) (text : List Char) : Except Breakdown Int :=
  let bare := bareNumeral text
  let digits := dropBase base (dropSign bare)
  if digits.isEmpty || !digits.all (fun c => (hexDigit? c).any (· < base)) then
    .error (.noNumber (String.ofList text))
  else if base = 10 && mostDigits < digits.length then .error (.longNumber digits.length)
  else
    let size := basedNumber base digits
    .ok (if isNegative bare then -(size : Int) else size)

def splitColons (text : List Char) : List (List Char) :=
  text.splitOn ':'

/-- The whole number that a text stands for. A text with a tag may have forms that a text without one
does not have. -/
def intValue (text : List Char) : Except Breakdown Int :=
  let plain := text.filter (· != '_')
  let size : Except Breakdown Int :=
    match dropSign plain with
    | [] => .error .emptyNumber
    | '0' :: 'b' :: rest => wholeIn 2 rest
    | '0' :: 'x' :: rest => wholeIn 16 rest
    | '0' :: rest => wholeIn 8 ('0' :: rest)
    | rest => (splitColons rest).foldlM (fun n part => (wholeIn 10 part).map (60 * n + ·)) 0
  size.map fun n => if isNegative plain then -n else n

def isDecimal (text : List Char) : Bool :=
  let isMark := fun c => c == 'e' || c == 'E'
  let mantissa := text.takeWhile fun c => !isMark c
  let power := dropSign ((text.dropWhile fun c => !isMark c).drop 1)
  mantissa.any digit && decide (mantissa.count '.' ≤ 1) &&
    mantissa.all (fun c => digit c || c == '.') && power.all digit &&
    (power.isEmpty == (mantissa.length == text.length))

/-- The number that a text in lower case spells, with a sign in front or none, and blanks around. -/
def realNumber (text : List Char) : Except Breakdown Float :=
  let bare := bareNumeral text
  let unsigned := dropSign bare
  let size :=
    if ["inf", "infinity"].contains (String.ofList unsigned) then some infinity
    else if unsigned = "nan".toList then some notANumber
    else if isDecimal unsigned then some (readFloat unsigned)
    else none
  match size with
  | none => .error (.noNumber (String.ofList text))
  | some x => .ok (if isNegative bare then -x else x)

/-- From here on whole numbers have no nearest number of double width. -/
def tooGreat : Nat := twoTo 1024 - twoTo 970

/-- Sixties are added up from the last part on. Their powers are whole numbers, and each product and
each sum is rounded to the nearest number of double width. -/
def sexagesimal (parts : List Float) : Except Breakdown Float :=
  if tooGreat ≤ Nat.pow 60 (parts.length - 1) then .error .greatNumber
  else
    .ok (parts.reverse.foldl (fun (sum, base) part => (sum + part * nearestFloat base 0, 60 * base))
      ((0 : Float), 1)).1

/-- The word for what is no number, which is the same one wherever it is written like this. -/
def isNotANumber (text : List Char) : Bool :=
  dropSign ((text.filter (· != '_')).map Char.toLower) == ".nan".toList

/-- The number of double width that a text stands for; more forms of it have a value than are taken
for one without a tag. -/
def floatValue (text : List Char) : Except Breakdown Float :=
  let plain := (text.filter (· != '_')).map Char.toLower
  let unsigned := dropSign plain
  let size : Except Breakdown Float :=
    if plain.isEmpty then .error .emptyNumber
    else if unsigned = ".inf".toList then .ok infinity
    else if isNotANumber text then .ok notANumber
    else if unsigned.contains ':' then do sexagesimal (← (splitColons unsigned).mapM realNumber)
    else realNumber unsigned
  size.map fun x => if isNegative plain then -x else x

def micro (fraction : List Char) : Nat :=
  decimalNumber ((fraction ++ List.replicate 6 '0').take 6)

def zoneMinutes : List Char × List Char × List Char → Int
  | (sign, hours, minutes) =>
    let size : Int := 60 * decimalNumber hours + decimalNumber minutes
    if sign = ['-'] then -size else size

def Stamp.setting? (stamp : Stamp) : Option Setting :=
  match stamp.fields.map decimalNumber with
  | [year, month, day] =>
    let date : Date := ⟨year, month, day⟩
    if date.exists? then some (.date date) else none
  | [year, month, day, hour, minute, second] =>
    let date : Date := ⟨year, month, day⟩
    let zone := stamp.zone.map zoneMinutes
    if date.exists? && hour < 24 && minute < 60 && second < 60 &&
        zone.all fun minutes => minutes.natAbs < 1440 then
      some (.timestamp ⟨date, hour, minute, second, micro stamp.fraction, zone⟩)
    else none
  | _ => none

def timestampValue (text : List Char) : Except Breakdown Setting :=
  match stamp? (dropLineFeed text) with
  | none => .error (.noTimestamp (String.ofList text))
  | some stamp =>
    match stamp.setting? with
    | none => .error (.noSuchTime (String.ofList text))
    | some setting => .ok setting

def boolValue (text : List Char) : Except Breakdown Bool :=
  let lower := String.ofList (text.map Char.toLower)
  if truthWords.contains lower then .ok true
  else if falsehoodWords.contains lower then .ok false
  else .error (.noTruthValue (String.ofList text))

end Plain

end Yaml

end QueryRegistry
