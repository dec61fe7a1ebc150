import QueryRegistry.Decimal.Notation

/-! Settings: the values that a configuration may hold. Most of them are of no use to the program,
but a report on a setting that is refused shows it as it is. -/

namespace QueryRegistry

structure Date where
  year : Nat
  month : Nat
  day : Nat
  deriving DecidableEq, Repr, Inhabited

namespace Date

def daysIn (year month : Nat) : Nat :=
  if month = 2 then
    if year % 4 = 0 && (year % 100 ≠ 0 || year % 400 = 0) then 29 else 28
  else if [4, 6, 9, 11].contains month then 30
  else 31

def exists? (date : Date) : Bool :=
  1 ≤ date.year && 1 ≤ date.month && date.month ≤ 12 && 1 ≤ date.day &&
    date.day ≤ daysIn date.year date.month

def number (date : Date) : Nat :=
  let years := date.year - 1
  let months := (List.range (date.month - 1)).foldl (fun n month => n + daysIn date.year (month + 1)) 0
  365 * years + years / 4 - years / 100 + years / 400 + months + date.day

end Date

/-- A point in time to the millionth of a second. The zone, if there is one, is told by how many
minutes its clocks are ahead. -/
structure Timestamp where
  date : Date
  hour : Nat
  minute : Nat
  second : Nat
  micro : Nat
  zone : Option Int
  deriving DecidableEq, Repr, Inhabited

/-- Points in time are compared by universal time. One without a zone is like no other that has
one. -/
def Timestamp.place (t : Timestamp) : Bool × Int × Nat × Nat :=
  (t.zone.isSome, 1440 * t.date.number + 60 * t.hour + t.minute - t.zone.getD 0, t.second, t.micro)

inductive Setting where
  | null
  | boolean (value : Bool)
  | int (value : Int)
  | float (value : Float)
  | text (value : String)
  | bytes (value : List UInt8)
  | date (value : Date)
  | timestamp (value : Timestamp)
  | list (items : List Setting)
  | pairs (entries : List (Setting × Setting))
  | mapping (members : List (Setting × Setting))
  | set (items : List Setting)
  /-- A list that holds itself, where it stands within itself. -/
  | listWithin
  /-- A mapping that holds itself, where it stands within itself. -/
  | mappingWithin
  deriving Repr, Inhabited

namespace Setting

def int? : Setting → Option Int
  | boolean b => some (if b then 1 else 0)
  | int n => some n
  | float x => wholeNumber? x
  | _ => none

/-- Whether two keys are one. Numbers are compared by their size, whatever their kind. -/
def sameKey (a b : Setting) : Bool :=
  match a, b with
  | null, null => true
  | text s, text t => s == t
  | bytes s, bytes t => s == t
  | date d, date e => d == e
  | timestamp t, timestamp u => t.place == u.place
  | float x, float y => x == y
  | a, b =>
    match a.int?, b.int? with
    | some m, some n => m == n
    | _, _ => false

def member? (setting : Setting) (key : String) : Option Setting :=
  match setting with
  | mapping members => (members.find? fun member => sameKey member.1 (text key)).map Prod.snd
  | _ => none

end Setting

end QueryRegistry
