import QueryRegistry.Setting.Basic
import QueryRegistry.Text.Numeral
import QueryRegistry.Text.Quoted

/-! Settings as reports show them. -/

namespace QueryRegistry

namespace Setting

/-- Numbers from a ten thousandth up to sixteen digits before the point are written in full. -/
def floatLayout : DecimalLayout := ⟨-4, 16⟩

def listed (items : List Nat) : String :=
  ", ".intercalate (items.map toString)

end Setting

def Date.print (date : Date) : String :=
  "datetime.date(" ++ Setting.listed [date.year, date.month, date.day] ++ ")"

namespace Timestamp

/-- Seconds are left out of a full minute, and millionths out of a full second. -/
def clock (t : Timestamp) : List Nat :=
  if t.micro ≠ 0 then [t.hour, t.minute, t.second, t.micro]
  else if t.second ≠ 0 then [t.hour, t.minute, t.second]
  else [t.hour, t.minute]

/-- A zone behind universal time is a day back and the rest of the day forward. -/
def printZone (minutes : Int) : String :=
  if minutes = 0 then "datetime.timezone.utc"
  else
    let days := minutes.fdiv 1440
    let seconds := minutes.fmod 1440 * 60
    "datetime.timezone(datetime.timedelta(" ++
      ", ".intercalate ((if days ≠ 0 then ["days=" ++ toString days] else []) ++
        (if seconds ≠ 0 then ["seconds=" ++ toString seconds] else [])) ++ "))"

def print (t : Timestamp) : String :=
  "datetime.datetime(" ++
    Setting.listed ([t.date.year, t.date.month, t.date.day] ++ t.clock) ++
    (t.zone.map fun minutes => ", tzinfo=" ++ printZone minutes).getD "" ++ ")"

end Timestamp

namespace Setting

mutual

def print : Setting → String
  | .null => "None"
  | .boolean true => "True"
  | .boolean false => "False"
  | .int n => toString n
  | .float x => floatLayout.write x
  | .text s => quote s
  | .bytes value => quoteBytes value
  | .date d => d.print
  | .timestamp t => t.print
  | .list items => "[" ++ ", ".intercalate (printItems items) ++ "]"
  | .pairs entries => "[" ++ ", ".intercalate (printEntries entries) ++ "]"
  | .mapping members => "\x7b" ++ ", ".intercalate (printMembers members) ++ "\x7d"
  | .set [] => "set()"
  | .set (item :: rest) => "\x7b" ++ ", ".intercalate (printItems (item :: rest)) ++ "\x7d"
  | .listWithin => "[...]"
  | .mappingWithin => "\x7b...\x7d"

def printItems : List Setting → List String
  | [] => []
  | item :: rest => print item :: printItems rest

def printMembers : List (Setting × Setting) → List String
  | [] => []
  | (key, value) :: rest => (print key ++ ": " ++ print value) :: printMembers rest

def printEntries : List (Setting × Setting) → List String
  | [] => []
  | (key, value) :: rest => ("(" ++ print key ++ ", " ++ print value ++ ")") :: printEntries rest

end

mutual

def ints : Setting → List Int
  | .int n => [n]
  | .list items => intsOfItems items
  | .pairs entries => intsOfPairs entries
  | .mapping members => intsOfPairs members
  | .set items => intsOfItems items
  | _ => []

def intsOfItems : List Setting → List Int
  | [] => []
  | item :: rest => ints item ++ intsOfItems rest

def intsOfPairs : List (Setting × Setting) → List Int
  | [] => []
  | (a, b) :: rest => ints a ++ ints b ++ intsOfPairs rest

end

def canBeShown (setting : Setting) : Bool :=
  setting.ints.all fun n => n.natAbs < tenTo mostDigits

end Setting

end QueryRegistry
