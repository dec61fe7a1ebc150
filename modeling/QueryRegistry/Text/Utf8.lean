import QueryRegistry.Text.Hexadecimal

/-! Reading text from bytes in UTF-8. The bytes go one after the other through a reader that stands
either between two characters or within one; within one it knows which bytes may come next. Overlong
forms, surrogates and numbers past the last character are refused at the first byte that shows them. -/

namespace QueryRegistry

namespace Utf8

inductive Reason where
  | badStart
  | badContinuation
  | cutOff
  deriving DecidableEq, Repr

structure Fault where
  reason : Reason
  offset : Nat
  bytes : List UInt8
  deriving DecidableEq, Repr

def Reason.text : Reason → String
  | badStart => "invalid start byte"
  | badContinuation => "invalid continuation byte"
  | cutOff => "unexpected end of data"

def Fault.message (fault : Fault) : String :=
  "'utf-8' codec can't decode " ++
    (match fault.bytes with
      | [b] =>
        "byte 0x" ++ String.ofList (hexDigits 2 b.toNat) ++ " in position " ++
          toString fault.offset
      | bytes =>
        "bytes in position " ++ toString fault.offset ++ "-" ++
          toString (fault.offset + bytes.length - 1)) ++
    ": " ++ fault.reason.text

/-- A character begun: its bytes so far, the number they make, how many more are to come, and the
range in which the next one has to lie. -/
structure Begun where
  bytes : List UInt8
  value : Nat
  missing : Nat
  low : UInt8
  high : UInt8

inductive Start where
  | whole (c : Char)
  | begun (b : Begun)
  | bad

def start (b : UInt8) : Start :=
  let begun := fun (base : UInt8) (missing : Nat) (low high : UInt8) =>
    Start.begun ⟨[b], (b - base).toNat, missing, low, high⟩
  if b < 0x80 then .whole (Char.ofNat b.toNat)
  else if b < 0xC2 then .bad
  else if b < 0xE0 then begun 0xC0 1 0x80 0xBF
  else if b = 0xE0 then begun 0xE0 2 0xA0 0xBF
  else if b = 0xED then begun 0xE0 2 0x80 0x9F
  else if b < 0xF0 then begun 0xE0 2 0x80 0xBF
  else if b = 0xF0 then begun 0xF0 3 0x90 0xBF
  else if b < 0xF4 then begun 0xF0 3 0x80 0xBF
  else if b = 0xF4 then begun 0xF0 3 0x80 0x8F
  else .bad

/-- Reads from `offset` on. A character begun, if there is one, stands in front of it. -/
def decodeFrom (offset : Nat) (within : Option Begun) : List UInt8 → Except Fault (List Char)
  | [] =>
    match within with
    | none => .ok []
    | some begun => .error ⟨.cutOff, offset - begun.bytes.length, begun.bytes⟩
  | b :: rest =>
    match within with
    | none =>
      match start b with
      | .whole c => (decodeFrom (offset + 1) none rest).map (c :: ·)
      | .begun begun => decodeFrom (offset + 1) (some begun) rest
      | .bad => .error ⟨.badStart, offset, [b]⟩
    | some begun =>
      if begun.low ≤ b && b ≤ begun.high then
        let value := 64 * begun.value + (b &&& 0x3F).toNat
        if begun.missing ≤ 1 then (decodeFrom (offset + 1) none rest).map (Char.ofNat value :: ·)
        else
          decodeFrom (offset + 1)
            (some ⟨begun.bytes ++ [b], value, begun.missing - 1, 0x80, 0xBF⟩) rest
      else .error ⟨.badContinuation, offset - begun.bytes.length, begun.bytes⟩

def decode (bytes : List UInt8) : Except Fault (List Char) :=
  decodeFrom 0 none bytes

end Utf8

end QueryRegistry
