import QueryRegistry.Text.Lines
import QueryRegistry.Text.Utf8

/-! Text that is read from a file piece by piece. The bytes come in chunks, and a fault in them is told by
its place in the chunk. A character that a chunk cuts off is held back and stands in front of the next
one. The text is handed on in parts of a fixed length, so that a reader who has seen enough of it never
comes to a fault far behind. -/

namespace QueryRegistry

namespace Utf8

def isSurrogateStart : List UInt8 → Bool
  | [a, b] => a == 0xED && 0xA0 ≤ b && b ≤ 0xBF
  | _ => false

/-- Where the part of a chunk begins that is held back: at a character that the end cuts off, or at what
would be a surrogate if it went on. -/
def heldFrom (bytes : List UInt8) : Nat :=
  match decode bytes with
  | .error ⟨.cutOff, offset, _⟩ => offset
  | .error ⟨.badContinuation, offset, _⟩ =>
    if isSurrogateStart (bytes.drop offset) then offset else bytes.length
  | _ => bytes.length

end Utf8

structure StreamFault where
  fault : Utf8.Fault
  before : List Char

namespace Stream

def partLength : Nat := 4096

/-- The length of the parts that come first, before which nothing is made of a text. -/
def firstParts : Nat := 2 * partLength

def leastChunk : Nat := 8192

/-- What has been read, the bytes held back and those still to come, the number of parts handed on, and
the sizes of the last chunk in bytes and in characters. -/
structure Progress where
  text : List Char := []
  held : List UInt8 := []
  rest : List UInt8
  parts : Nat := 0
  lastBytes : Nat := 0
  lastChars : Nat := 0

/-- The characters that can be handed on. A carriage return at the end waits for what comes next. -/
def Progress.ready (progress : Progress) : Nat :=
  (unifyLineEnds progress.text).length - if progress.text.getLast? = some '\r' then 1 else 0

/-- A chunk is sized by the characters wanted, going by the bytes that each took last time. -/
def Progress.chunk (progress : Progress) (wanted : Nat) : Nat :=
  max leastChunk (max wanted (progress.lastBytes * wanted / progress.lastChars))

def Progress.fail (progress : Progress) (fault : Utf8.Fault) : StreamFault :=
  ⟨fault, (unifyLineEnds progress.text).take (progress.parts * partLength)⟩

/-- Reads on. The first argument bounds the chunks and the parts. -/
def readFrom : Nat → Progress → Except StreamFault (List Char)
  | 0, progress => .ok (unifyLineEnds progress.text)
  | bound + 1, progress =>
    let ready := progress.ready
    let next := (progress.parts + 1) * partLength
    if next ≤ ready then readFrom bound { progress with parts := progress.parts + 1 }
    else if progress.rest.isEmpty then
      match Utf8.decode progress.held with
      | .error fault => .error (progress.fail fault)
      | .ok last => .ok (unifyLineEnds (progress.text ++ last))
    else
      let size := progress.chunk (next - ready)
      let bytes := progress.held ++ progress.rest.take size
      let place := Utf8.heldFrom bytes
      match Utf8.decode (bytes.take place) with
      | .error fault => .error (progress.fail fault)
      | .ok more =>
        let after : Progress :=
          { progress with
            text := progress.text ++ more
            held := bytes.drop place
            rest := progress.rest.drop size }
        readFrom bound
          { after with
            lastBytes := min size progress.rest.length
            lastChars := after.ready - ready }

def read (bytes : List UInt8) : Except StreamFault (List Char) :=
  readFrom (bytes.length + 2) { rest := bytes }

end Stream

end QueryRegistry
