/-! The shortest decimal that reads back as a binary fraction. A finite fraction is `m * 2 ^ q`; what
rounds to it lies between the points halfway to its neighbours, which belong to it when `m` is even.
Decimal grids are tried from the coarsest on, and the point nearest to the fraction is taken. -/

namespace QueryRegistry

def twoTo (n : Nat) : Nat := Nat.pow 2 n

def tenTo (n : Nat) : Nat := Nat.pow 10 n

structure Decimal where
  digits : Nat
  exponent : Int
  deriving DecidableEq, Repr

/-- A positive binary fraction `mantissa * 2 ^ exponent`. When `narrow` holds, the neighbour below is
only half as far away as the one above. -/
structure BinaryFraction where
  mantissa : Nat
  exponent : Int
  narrow : Bool
  deriving DecidableEq, Repr

namespace BinaryFraction

def ofBits (bits : Nat) : BinaryFraction :=
  let e : Nat := bits / twoTo 52 % twoTo 11
  let f : Nat := bits % twoTo 52
  if e = 0 then ⟨f, -1074, false⟩ else ⟨twoTo 52 + f, (e : Int) - 1075, f = 0 && decide (1 < e)⟩

/-- All bounds are counted in quarters of the last place, which are `numerator / denominator`
each. -/
def quarter (x : BinaryFraction) : Nat × Nat :=
  if 2 ≤ x.exponent then (twoTo (x.exponent - 2).toNat, 1) else (1, twoTo (2 - x.exponent).toNat)

def ratio (x : BinaryFraction) : Nat × Nat :=
  (4 * x.mantissa * x.quarter.1, x.quarter.2)

def lowQuarters (x : BinaryFraction) : Nat := 4 * x.mantissa - if x.narrow then 1 else 2

def highQuarters (x : BinaryFraction) : Nat := 4 * x.mantissa + 2

/-- Both sides of the comparison of `d` with so many quarters, cleared of denominators. -/
def against (x : BinaryFraction) (d : Decimal) (quarters : Nat) : Nat × Nat :=
  (d.digits * tenTo d.exponent.toNat * x.quarter.2,
    quarters * x.quarter.1 * tenTo (-d.exponent).toNat)

def readsBack (x : BinaryFraction) (d : Decimal) : Bool :=
  let low := x.against d x.lowQuarters
  let high := x.against d x.highQuarters
  if x.mantissa % 2 = 0 then low.2 ≤ low.1 && high.1 ≤ high.2 else low.2 < low.1 && high.1 < high.2

/-- The exponent of the grid of one digit: the fraction lies below its tenfold. -/
def leadingExponent (x : BinaryFraction) : Int :=
  let (n, d) := x.ratio
  let guess : Int := (Nat.toDigits 10 n).length - (Nat.toDigits 10 d).length
  let above := fun (e : Int) => n * tenTo (-e).toNat < d * tenTo e.toNat
  if above guess then guess - 1 else guess

def below (x : BinaryFraction) (exponent : Int) : Decimal :=
  let (n, d) := x.ratio
  ⟨n * tenTo (-exponent).toNat / (d * tenTo exponent.toNat), exponent⟩

/-- The point of a grid that is nearest among its two around the fraction, if it reads back; halfway
between them the even one is taken. -/
def onGrid (x : BinaryFraction) (exponent : Int) : Option Decimal :=
  let low := x.below exponent
  let high : Decimal := ⟨low.digits + 1, exponent⟩
  let middle : Decimal := ⟨10 * low.digits + 5, exponent - 1⟩
  let (m, v) := x.against middle (4 * x.mantissa)
  let lowNearer := v < m || (v = m && low.digits % 2 = 0)
  match x.readsBack low, x.readsBack high with
  | true, true => some (if lowNearer then low else high)
  | true, false => some low
  | false, true => some high
  | false, false => none

/-- Seventeen digits are enough for every fraction of double width. -/
def shortest (x : BinaryFraction) : Decimal :=
  let lead := x.leadingExponent
  let found := (List.range 17).findSome? fun (n : Nat) => x.onGrid (lead - n)
  found.getD (x.below (lead - 16))

end BinaryFraction

namespace Decimal

def trim : Nat → Decimal → Decimal
  | 0, d => d
  | n + 1, d =>
    if d.digits ≠ 0 ∧ d.digits % 10 = 0 then trim n ⟨d.digits / 10, d.exponent + 1⟩ else d

end Decimal

end QueryRegistry
