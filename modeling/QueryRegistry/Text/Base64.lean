import QueryRegistry.Text.Quoted

/-! Bytes written in base sixty-four. Four characters stand for three bytes; where fewer bytes are left,
equals signs fill up the last four. Characters that are no digits are passed over. -/

namespace QueryRegistry

namespace Base64

inductive Fault where
  | foreign (chars : List Char) (offset : Nat)
  /-- One digit is left, too few for a byte. -/
  | loneDigit (digits : Nat)
  | unfilled
  deriving DecidableEq, Repr

def Fault.message : Fault → String
  | foreign chars offset =>
    "failed to convert base64 data into ascii: 'ascii' codec can't encode " ++
      (match chars with
        | [c] =>
          "character '" ++ String.ofList (Quoted.numbered c.toNat) ++ "' in position " ++
            toString offset
        | _ =>
          "characters in position " ++ toString offset ++ "-" ++
            toString (offset + chars.length - 1)) ++
      ": ordinal not in range(128)"
  | loneDigit digits =>
    "failed to decode base64 data: Invalid base64-encoded string: number of data characters (" ++
      toString digits ++ ") cannot be 1 more than a multiple of 4"
  | unfilled => "failed to decode base64 data: Incorrect padding"

def digit? (c : Char) : Option Nat :=
  if 'A' ≤ c ∧ c ≤ 'Z' then some (c.toNat - 'A'.toNat)
  else if 'a' ≤ c ∧ c ≤ 'z' then some (c.toNat - 'a'.toNat + 26)
  else if '0' ≤ c ∧ c ≤ '9' then some (c.toNat - '0'.toNat + 52)
  else if c = '+' then some 62
  else if c = '/' then some 63
  else none

/-- Reads on behind so many digits. The bits that the digits since the last whole byte have left over
begin the next one, and `fill` equals signs have come since the last digit. What comes behind the sign
that fills up the four is not read. -/
def decodeFrom (digits left fill : Nat) : List Char → Except Fault (List UInt8)
  | [] =>
    match digits % 4 with
    | 0 => .ok []
    | 1 => .error (.loneDigit digits)
    | _ => .error .unfilled
  | c :: rest =>
    if c = '=' then
      if digits % 4 < 2 then decodeFrom digits left fill rest
      else if 4 ≤ digits % 4 + fill + 1 then .ok []
      else decodeFrom digits left (fill + 1) rest
    else
      match digit? c, digits % 4 with
      | none, _ => decodeFrom digits left fill rest
      | some n, 0 => decodeFrom (digits + 1) n 0 rest
      | some n, 1 =>
        (decodeFrom (digits + 1) (n % 16) 0 rest).map ((4 * left + n / 16).toUInt8 :: ·)
      | some n, 2 =>
        (decodeFrom (digits + 1) (n % 4) 0 rest).map ((16 * left + n / 4).toUInt8 :: ·)
      | some n, _ => (decodeFrom (digits + 1) 0 0 rest).map ((64 * left + n).toUInt8 :: ·)

def isAscii (c : Char) : Bool := c.toNat < 0x80

/-- The bytes that a text stands for. It has to be in ASCII, whether its characters are digits or not,
and it may not break off within a group of four. -/
def decode (text : List Char) : Except Fault (List UInt8) :=
  let ascii := text.takeWhile isAscii
  match text.drop ascii.length with
  | [] => decodeFrom 0 0 0 text
  | rest => .error (.foreign (rest.takeWhile (!isAscii ·)) ascii.length)

end Base64

end QueryRegistry
