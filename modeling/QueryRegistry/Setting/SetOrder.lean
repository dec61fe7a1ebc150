import QueryRegistry.Decimal.Notation
import QueryRegistry.Setting.Basic

/-! The order in which a set shows its items. Numbers go by the places they have in a table with a power
of two of places: an item takes the place that its size leads to, or one found from there by a fixed
rule if that is taken. All other items stay in the order in which they came. -/

namespace QueryRegistry

namespace SetOrder

/-- Sizes are counted up to this prime, by which each power of two leaves a small power of two. -/
def modulus : Nat := twoTo 61 - 1

def signed (negative : Bool) (size : Nat) : Int :=
  if negative then (if size = 1 then -2 else -(size : Int)) else size

def key? : Setting → Option Int
  | .boolean b => some (if b then 1 else 0)
  | .int n => some (signed (n < 0) (n.natAbs % modulus))
  | .float x =>
    let bits := x.toBits.toNat
    let negative := decide (twoTo 63 ≤ bits)
    let magnitude := bits % twoTo 63
    if magnitude = 0x7FF * twoTo 52 then some (signed negative 314159)
    else if 0x7FF * twoTo 52 < magnitude then none
    else
      let fraction := BinaryFraction.ofBits magnitude
      some (signed negative (fraction.mantissa * twoTo (fraction.exponent.emod 61).toNat % modulus))
  | _ => none

/-- A table has at least eight places, and more than twice as many as items if there are five of them
or more. -/
def places (items : Nat) : Nat :=
  if items < 5 then 8 else 2 * twoTo (2 * items).log2

abbrev Slots := Array (Option Setting)

def isFree (slots : Slots) (place : Nat) : Bool :=
  match slots[place]? with
  | some none => true
  | _ => false

/-- The first free place on the way that begins at `place`. Ten places in a row are tried if there are
as many, else the one alone; the next row begins where `rest`, what is left of the key, leads. -/
def freePlace (slots : Slots) : Nat → Nat → Nat → Nat
  | 0, place, _ => place
  | bound + 1, place, rest =>
    let row := if place + 9 < slots.size then (List.range 10).map (place + ·) else [place]
    match row.find? (isFree slots) with
    | some free => free
    | none =>
      let rest := rest / 32
      freePlace slots bound ((5 * place + 1 + rest) % slots.size) rest

def put (slots : Slots) (item : Setting × Int) : Slots :=
  let key := (item.2.emod (twoTo 64)).toNat
  slots.setIfInBounds (freePlace slots (2 * slots.size + 16) (key % slots.size) key) (some item.1)

end SetOrder

def setOrder (items : List Setting) : List Setting :=
  match items.mapM fun item => (SetOrder.key? item).map (item, ·) with
  | none => items
  | some keyed =>
    let slots := Array.replicate (SetOrder.places keyed.length) none
    (keyed.foldl SetOrder.put slots).toList.filterMap id

end QueryRegistry
