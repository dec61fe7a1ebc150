import QueryRegistry.Text.Escape

/-! Reading JSON. The members of an object are given in the order in which they stand, repeated names
and all, and a number is given by its digits. The numbers of double width that have none are no JSON,
but there are names for them in use, which are read where they are asked for. -/

namespace QueryRegistry

inductive Json where
  | null
  | boolean (value : Bool)
  | number (digits : String)
  | string (value : String)
  | array (items : List Json)
  | object (members : List (String × Json))
  deriving BEq, Repr, Inhabited

namespace Json

def isBlank (c : Char) : Bool := c == ' ' || c == '\t' || c == '\n' || c == '\r'

def dropBlanks (text : List Char) : List Char := text.dropWhile isBlank

def isDecimalDigit (c : Char) : Bool := '0' ≤ c && c ≤ '9'

/-! ### Texts -/

def readChar : List Char → Option (Char × List Char)
  | '\\' :: 'u' :: rest => numberedEscape? rest
  | '\\' :: c :: rest => (simpleEscape? c).map fun d => (d, rest)
  | c :: rest => if c == '"' || c == '\\' || c.toNat < 0x20 then none else some (c, rest)
  | [] => none

theorem length_readChar {text rest : List Char} {c : Char}
    (h : readChar text = some (c, rest)) : rest.length < text.length := by
  unfold readChar at h
  split at h
  · have := length_numberedEscape? h
    simp only [List.length_cons]
    omega
  · obtain ⟨_, _, hr⟩ := Option.map_eq_some_iff.mp h
    simp only [Prod.mk.injEq] at hr
    simp only [← hr.2, List.length_cons]
    omega
  · split at h
    · simp at h
    · simp only [Option.some.injEq, Prod.mk.injEq] at h
      simp [h.2]
  · simp at h

def readChars (text : List Char) : Option (List Char × List Char) :=
  match text with
  | '"' :: rest => some ([], rest)
  | text =>
    match _h : readChar text with
    | none => none
    | some (c, rest) => (readChars rest).map fun (cs, rest) => (c :: cs, rest)
termination_by text.length
decreasing_by exact length_readChar _h

def readText : List Char → Option (String × List Char)
  | '"' :: rest => (readChars rest).map fun (cs, rest) => (String.ofList cs, rest)
  | _ => none

/-! ### Numbers -/

def readDecimalDigits (text : List Char) : Option (List Char × List Char) :=
  match text.takeWhile isDecimalDigit with
  | [] => none
  | digits => some (digits, text.dropWhile isDecimalDigit)

def readWholePart : List Char → Option (List Char × List Char)
  | '0' :: rest => some (['0'], rest)
  | text => readDecimalDigits text

def readFractionPart : List Char → Option (List Char × List Char)
  | '.' :: rest => (readDecimalDigits rest).map fun (digits, rest) => ('.' :: digits, rest)
  | text => some ([], text)

def readExponentPart : List Char → Option (List Char × List Char)
  | [] => some ([], [])
  | mark :: rest =>
    if mark == 'e' || mark == 'E' then
      match rest with
      | '+' :: rest => (readDecimalDigits rest).map fun (ds, rest) => (mark :: '+' :: ds, rest)
      | '-' :: rest => (readDecimalDigits rest).map fun (ds, rest) => (mark :: '-' :: ds, rest)
      | rest => (readDecimalDigits rest).map fun (ds, rest) => (mark :: ds, rest)
    else some ([], mark :: rest)

def readUnsigned (text : List Char) : Option (List Char × List Char) := do
  let (whole, text) ← readWholePart text
  let (fraction, text) ← readFractionPart text
  let (exponent, text) ← readExponentPart text
  return (whole ++ fraction ++ exponent, text)

def readNumber : List Char → Option (Json × List Char)
  | '-' :: rest => (readUnsigned rest).map fun (ds, rest) => (number (String.ofList ('-' :: ds)), rest)
  | text => (readUnsigned text).map fun (ds, rest) => (number (String.ofList ds), rest)

/-- The names of the numbers that no digits stand for. -/
def numberNames : List String := ["NaN", "Infinity", "-Infinity"]

def readName (text : List Char) : Option (Json × List Char) :=
  (numberNames.find? fun name => name.toList.isPrefixOf text).map fun name =>
    (number name, text.drop name.length)

/-! ### Values -/

section

variable (named : Bool)

mutual

/-- The value at the front of a text. The first argument bounds the steps into values and along
lists; each character is good for two of them at most. -/
def readValue : Nat → List Char → Option (Json × List Char)
  | 0, _ => none
  | fuel + 1, text =>
    match text with
    | 'n' :: 'u' :: 'l' :: 'l' :: rest => some (null, rest)
    | 't' :: 'r' :: 'u' :: 'e' :: rest => some (boolean true, rest)
    | 'f' :: 'a' :: 'l' :: 's' :: 'e' :: rest => some (boolean false, rest)
    | '"' :: rest => (readText ('"' :: rest)).map fun (t, rest) => (string t, rest)
    | '[' :: rest =>
      match dropBlanks rest with
      | ']' :: rest => some (array [], rest)
      | rest => (readItems fuel rest).map fun (items, rest) => (array items, rest)
    | '\x7b' :: rest =>
      match dropBlanks rest with
      | '\x7d' :: rest => some (object [], rest)
      | rest => (readMembers fuel rest).map fun (members, rest) => (object members, rest)
    | text => (if named then readName text else none) <|> readNumber text

def readItems : Nat → List Char → Option (List Json × List Char)
  | 0, _ => none
  | fuel + 1, text =>
    match readValue fuel (dropBlanks text) with
    | none => none
    | some (item, rest) =>
      match dropBlanks rest with
      | ',' :: rest => (readItems fuel rest).map fun (items, rest) => (item :: items, rest)
      | ']' :: rest => some ([item], rest)
      | _ => none

def readMembers : Nat → List Char → Option (List (String × Json) × List Char)
  | 0, _ => none
  | fuel + 1, text =>
    match readText (dropBlanks text) with
    | none => none
    | some (name, rest) =>
      match dropBlanks rest with
      | ':' :: rest =>
        match readValue fuel (dropBlanks rest) with
        | none => none
        | some (value, rest) =>
          match dropBlanks rest with
          | ',' :: rest =>
            (readMembers fuel rest).map fun (members, rest) => ((name, value) :: members, rest)
          | '\x7d' :: rest => some ([(name, value)], rest)
          | _ => none
      | _ => none

end

end

def readWith (named : Bool) (text : String) : Option Json :=
  match readValue named (2 * text.toList.length + 1) (dropBlanks text.toList) with
  | some (value, rest) => if (dropBlanks rest).isEmpty then some value else none
  | none => none

def read : String → Option Json := readWith false

end Json

end QueryRegistry
