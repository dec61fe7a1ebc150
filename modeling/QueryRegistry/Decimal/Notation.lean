import QueryRegistry.Decimal.Shortest

/-! Writing and reading numbers of double width in decimal notation. -/

namespace QueryRegistry

/-- Where a number with its point in place gives way to one with an exponent: `plainFrom` and
`plainBelow` bound the power of ten of the first digit. -/
structure DecimalLayout where
  plainFrom : Int
  plainBelow : Int
  deriving DecidableEq, Repr

namespace DecimalLayout

def exponentText (e : Int) : String :=
  let digits := toString e.natAbs
  "e" ++ (if e < 0 then "-" else "+") ++ (if digits.length < 2 then "0" else "") ++ digits

/-- A decimal with its point in place has a digit on either side of it. -/
def lay (layout : DecimalLayout) (d : Decimal) : String :=
  let digits := (Nat.toDigits 10 d.digits)
  let lead : Int := d.exponent + digits.length - 1
  let zeros := fun (n : Nat) => List.replicate n '0'
  if layout.plainFrom ≤ lead && lead < layout.plainBelow then
    if lead < 0 then
      "0." ++ String.ofList (zeros (-lead - 1).toNat ++ digits)
    else
      let whole := digits.take (lead.toNat + 1) ++ zeros (lead.toNat + 1 - digits.length)
      let rest := digits.drop (lead.toNat + 1)
      String.ofList whole ++ "." ++ (if rest.isEmpty then "0" else String.ofList rest)
  else
    let rest := digits.drop 1
    String.ofList (digits.take 1) ++ (if rest.isEmpty then "" else "." ++ String.ofList rest) ++
      exponentText lead

def write (layout : DecimalLayout) (x : Float) : String :=
  let bits := x.toBits.toNat
  let magnitude := bits % twoTo 63
  if x.isNaN then "nan"
  else
    (if twoTo 63 ≤ bits then "-" else "") ++
      if magnitude = 0x7FF * twoTo 52 then "inf"
      else if magnitude = 0 then "0.0"
      else layout.lay ((BinaryFraction.ofBits magnitude).shortest.trim 17)

end DecimalLayout

def infinity : Float := Float.ofBits 0x7FF0000000000000

def notANumber : Float := Float.ofBits 0x7FF8000000000000

/-- The number of double width nearest to `digits * 10 ^ exponent`. Far outside the range of such
numbers it is zero or infinite, whatever the digits are. -/
def nearestFloat (digits : Nat) (exponent : Int) : Float :=
  let lead : Int := exponent + (Nat.toDigits 10 digits).length
  if digits = 0 || lead < -400 then 0
  else if 400 < lead then infinity
  else if exponent < 0 then Float.ofScientific digits true exponent.natAbs
  else Float.ofScientific digits false exponent.natAbs

def decimalNumber (digits : List Char) : Nat :=
  (digits.filter fun c => '0' ≤ c && c ≤ '9').foldl (fun n c => 10 * n + (c.toNat - '0'.toNat)) 0

def signedNumber : List Char → Int
  | '-' :: digits => -(decimalNumber digits : Int)
  | digits => decimalNumber digits

/-- The number nearest to one written with a sign, digits, a point and an exponent, all of which but
the digits may be left out. -/
def readFloat (text : List Char) : Float :=
  let unsigned := text.dropWhile fun c => c == '-' || c == '+'
  let isMark := fun c => c == 'e' || c == 'E'
  let mantissa := unsigned.takeWhile fun c => !isMark c
  let fraction := (mantissa.dropWhile fun c => c != '.').drop 1
  let power := signedNumber ((unsigned.dropWhile fun c => !isMark c).drop 1)
  let size := nearestFloat (decimalNumber mantissa) (power - fraction.length)
  if text.head? = some '-' then -size else size

def wholeNumber? (x : Float) : Option Int :=
  let bits := x.toBits.toNat
  let magnitude := bits % twoTo 63
  if 0x7FF * twoTo 52 ≤ magnitude then none
  else
    let fraction := BinaryFraction.ofBits magnitude
    let size : Option Nat :=
      if 0 ≤ fraction.exponent then some (fraction.mantissa * twoTo fraction.exponent.toNat)
      else
        let scale := twoTo fraction.exponent.natAbs
        if fraction.mantissa % scale = 0 then some (fraction.mantissa / scale) else none
    size.map fun n => if twoTo 63 ≤ bits then -(n : Int) else n

end QueryRegistry
