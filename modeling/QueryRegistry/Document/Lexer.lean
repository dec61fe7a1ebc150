import QueryRegistry.Document.BlockText
import QueryRegistry.Document.Token
import QueryRegistry.Text.Escape

/-! Reading the tokens of a text. Each reader takes the characters that remain and gives what it
has read with the characters left over, or the fault it met with the characters from the fault on.
What remains says where in the text a reader stands, so no positions are counted. -/

namespace QueryRegistry

structure Stuck where
  fault : LexicalFault
  rest : List Char
  deriving DecidableEq, Repr

abbrev Scanned (α : Type) := Except Stuck (α × List Char)

def readAs {α β : Type} (f : α → β) (scanned : Scanned α) : Scanned β :=
  scanned.map fun (a, rest) => (f a, rest)

theorem readAs_eq_ok {α β : Type} {f : α → β} {scanned : Scanned α} {b : β} {rest : List Char} :
    readAs f scanned = .ok (b, rest) ↔ ∃ a, scanned = .ok (a, rest) ∧ f a = b := by
  cases scanned with
  | error stuck => simp [readAs, Except.map]
  | ok p =>
    obtain ⟨a, later⟩ := p
    simp only [readAs, Except.map, Except.ok.injEq, Prod.mk.injEq]
    constructor
    · rintro ⟨rfl, rfl⟩
      exact ⟨a, ⟨rfl, rfl⟩, rfl⟩
    · rintro ⟨_, ⟨rfl, rfl⟩, rfl⟩
      exact ⟨rfl, rfl⟩

def isDigit (c : Char) : Bool := '0' ≤ c && c ≤ '9'

def isNameStart (c : Char) : Bool :=
  ('a' ≤ c && c ≤ 'z') || ('A' ≤ c && c ≤ 'Z') || c == '_'

def isNamePart (c : Char) : Bool := isNameStart c || isDigit c

/-- Blanks, commas, byte order marks and line ends separate tokens and are no tokens. -/
def isIgnored (c : Char) : Bool :=
  c == ' ' || c == '\t' || c == ',' || c == '\uFEFF' || isLineEnd c

/-- Drops what separates tokens; within a comment, all up to the end of the line goes. -/
def dropIgnored (comment : Bool) : List Char → List Char
  | [] => []
  | c :: rest =>
    if isLineEnd c then dropIgnored false rest
    else if comment then dropIgnored true rest
    else if isIgnored c then dropIgnored false rest
    else if c == '#' then dropIgnored true rest
    else c :: rest

def readName (text : List Char) : Token × List Char :=
  (.name (String.ofList (text.takeWhile isNamePart)), text.dropWhile isNamePart)

/-! ### Numbers -/

def readDigits (text : List Char) : Scanned (List Char) :=
  match text.takeWhile isDigit with
  | [] => .error ⟨.digitExpected text.head?, text⟩
  | digits => .ok (digits, text.dropWhile isDigit)

/-- A whole number that starts with zero is zero. -/
def readWhole : List Char → Scanned (List Char)
  | '0' :: rest =>
    if rest.head?.any isDigit then .error ⟨.digitAfterZero rest.head?, rest⟩ else .ok (['0'], rest)
  | text => readDigits text

def readFraction : List Char → Scanned (List Char)
  | '.' :: rest => readAs ('.' :: ·) (readDigits rest)
  | text => .ok ([], text)

def isExponentMark (c : Char) : Bool := c == 'e' || c == 'E'

def isSign (c : Char) : Bool := c == '+' || c == '-'

def readExponent : List Char → Scanned (List Char)
  | [] => .ok ([], [])
  | mark :: rest =>
    if isExponentMark mark then
      match rest with
      | [] => .error ⟨.digitExpected none, []⟩
      | sign :: rest' =>
        if isSign sign then readAs (mark :: sign :: ·) (readDigits rest')
        else readAs (mark :: ·) (readDigits rest)
    else .ok ([], mark :: rest)

def splitMinus : List Char → List Char × List Char
  | '-' :: rest => (['-'], rest)
  | text => ([], text)

def continuesNumber (c : Char) : Bool := c == '.' || isNameStart c

def readNumber (text : List Char) : Scanned Token :=
  (do
    let (minus, text) := splitMinus text
    let (whole, text) ← readWhole text
    let (fraction, text) ← readFraction text
    let (exponent, text) ← readExponent text
    if text.head?.any continuesNumber then
      .error ⟨.digitExpected text.head?, text⟩
    else
      let digits := String.ofList (minus ++ whole ++ fraction ++ exponent)
      .ok (if fraction.isEmpty && exponent.isEmpty then .int digits else .float digits, text) :
    Except Stuck (Token × List Char))

/-! ### Quotations -/

/-- Four digits behind a backslash and the letter u, twice for a surrogate pair. -/
def readFixedEscape (text : List Char) : Except LexicalFault (Char × List Char) :=
  match numberedEscape? text with
  | some read => .ok read
  | none => .error (.unknownCodePoint (String.ofList ('\\' :: 'u' :: text.take 4)))

/-- Up to eight digits and a closing brace; a report shows all that was read before the fault. -/
def readBracedEscape (text : List Char) : Except LexicalFault (Char × List Char) :=
  let digits := (text.take 9).takeWhile isHexDigit
  let seen := text.take (min 9 (digits.length + 1))
  let fault := .unknownCodePoint (String.ofList ('\\' :: 'u' :: '\x7b' :: seen))
  match text.drop digits.length with
  | '\x7d' :: rest =>
    if digits.isEmpty || decide (8 < digits.length) then .error fault
    else
      match (hexNumber? digits).bind scalar? with
      | some c => .ok (c, rest)
      | none => .error fault
  | _ => .error fault

def readEscape : List Char → Except LexicalFault (Char × List Char)
  | [] => .error (.unknownEscape "\\")
  | 'u' :: '\x7b' :: rest => readBracedEscape rest
  | 'u' :: rest => readFixedEscape rest
  | c :: rest =>
    match simpleEscape? c with
    | some d => .ok (d, rest)
    | none => .error (.unknownEscape (String.ofList ['\\', c]))

theorem length_readFixedEscape {text rest : List Char} {c : Char}
    (h : readFixedEscape text = .ok (c, rest)) : rest.length ≤ text.length := by
  unfold readFixedEscape at h
  split at h
  next hn => exact length_numberedEscape? (hn.trans (congrArg some (Except.ok.inj h)))
  · simp at h

theorem length_readBracedEscape {text rest : List Char} {c : Char}
    (h : readBracedEscape text = .ok (c, rest)) : rest.length ≤ text.length := by
  unfold readBracedEscape at h
  dsimp only at h
  split at h
  next later hdrop =>
    have := congrArg List.length hdrop
    simp only [List.length_drop, List.length_cons] at this
    split at h
    · simp at h
    · split at h
      · simp only [Except.ok.injEq, Prod.mk.injEq] at h
        rw [← h.2]
        omega
      · simp at h
  · simp at h

theorem length_readEscape {text rest : List Char} {c : Char}
    (h : readEscape text = .ok (c, rest)) : rest.length ≤ text.length := by
  unfold readEscape at h
  split at h
  · simp at h
  · have := length_readBracedEscape h
    simp only [List.length_cons]
    omega
  · have := length_readFixedEscape h
    simp only [List.length_cons]
    omega
  · split at h
    · simp only [Except.ok.injEq, Prod.mk.injEq] at h
      simp [← h.2]
    · simp at h

/-- The characters up to the closing quote, which has to stand on the same line. -/
def readCharacters : List Char → Scanned (List Char)
  | [] => .error ⟨.unterminatedQuotation, []⟩
  | '"' :: rest => .ok ([], rest)
  | '\\' :: rest =>
    match _he : readEscape rest with
    | .error fault => .error ⟨fault, '\\' :: rest⟩
    | .ok (c, rest') => readAs (c :: ·) (readCharacters rest')
  | c :: rest =>
    if isLineEnd c then .error ⟨.unterminatedQuotation, c :: rest⟩
    else readAs (c :: ·) (readCharacters rest)
termination_by text => text.length
decreasing_by
  · have := length_readEscape _he
    simp only [List.length_cons]
    omega
  · simp

def readBlock : List Char → Scanned (List Char)
  | [] => .error ⟨.unterminatedQuotation, []⟩
  | '"' :: '"' :: '"' :: rest => .ok ([], rest)
  | '\\' :: '"' :: '"' :: '"' :: rest =>
    readAs (['"', '"', '"'] ++ ·) (readBlock rest)
  | c :: rest => readAs (c :: ·) (readBlock rest)

def readQuotation : List Char → Scanned Token
  | '"' :: '"' :: rest =>
    readAs (fun raw => .quoted ⟨String.ofList (blockText raw), true⟩) (readBlock rest)
  | text => readAs (fun cs => .quoted ⟨String.ofList cs, false⟩) (readCharacters text)

def readToken (c : Char) (rest : List Char) : Scanned Token :=
  match Punctuator.ofChar? c with
  | some p => .ok (.punctuator p, rest)
  | none =>
    if c == '"' then readQuotation rest
    else if isDigit c || c == '-' then readNumber (c :: rest)
    else if isNameStart c then .ok (readName (c :: rest))
    else
      match c, rest with
      | '.', '.' :: '.' :: rest => .ok (.punctuator .dots, rest)
      | '\'', _ => .error ⟨.singleQuote, c :: rest⟩
      | _, _ => .error ⟨.strayCharacter c, c :: rest⟩

/-! ### Progress

No reader gives back more than it was given, and a token takes at least one character. -/

theorem length_dropWhile_le {α : Type} (p : α → Bool) (xs : List α) :
    (xs.dropWhile p).length ≤ xs.length :=
  (List.dropWhile_suffix p).length_le

theorem length_dropIgnored (comment : Bool) (text : List Char) :
    (dropIgnored comment text).length ≤ text.length := by
  induction text generalizing comment with
  | nil => simp [dropIgnored]
  | cons c rest ih =>
    have := ih false
    have := ih true
    simp only [dropIgnored, List.length_cons]
    split
    · omega
    · split
      · omega
      · split
        · omega
        · split
          · omega
          · simp

theorem length_readDigits {text digits rest : List Char}
    (h : readDigits text = .ok (digits, rest)) : rest.length < text.length := by
  unfold readDigits at h
  split at h
  · simp at h
  next hne =>
    simp only [Except.ok.injEq, Prod.mk.injEq] at h
    have hlen := congrArg List.length (List.takeWhile_append_dropWhile (p := isDigit) (l := text))
    rw [List.length_append, h.1, h.2] at hlen
    have : digits ≠ [] := by rintro rfl; exact hne h.1
    have := List.length_pos_iff.mpr this
    omega

theorem length_readWhole {text digits rest : List Char}
    (h : readWhole text = .ok (digits, rest)) : rest.length < text.length := by
  unfold readWhole at h
  split at h
  · split at h
    · simp at h
    · simp only [Except.ok.injEq, Prod.mk.injEq] at h
      simp [h.2]
  · exact length_readDigits h

theorem length_readFraction {text digits rest : List Char}
    (h : readFraction text = .ok (digits, rest)) : rest.length ≤ text.length := by
  unfold readFraction at h
  split at h
  next later =>
    obtain ⟨_, hd, _⟩ := readAs_eq_ok.mp h
    exact Nat.le_of_lt (Nat.lt_succ_of_lt (length_readDigits hd))
  · simp only [Except.ok.injEq, Prod.mk.injEq] at h
    simp [h.2]

theorem length_readExponent {text digits rest : List Char}
    (h : readExponent text = .ok (digits, rest)) : rest.length ≤ text.length := by
  unfold readExponent at h
  split at h
  · simp only [Except.ok.injEq, Prod.mk.injEq] at h
    simp [← h.2]
  · split at h
    · split at h
      · simp at h
      · split at h <;> obtain ⟨_, hd, _⟩ := readAs_eq_ok.mp h
        · exact Nat.le_of_lt (Nat.lt_succ_of_lt (Nat.lt_succ_of_lt (length_readDigits hd)))
        · exact Nat.le_of_lt (Nat.lt_succ_of_lt (length_readDigits hd))
    · simp only [Except.ok.injEq, Prod.mk.injEq] at h
      simp [← h.2]

theorem length_splitMinus (text : List Char) : (splitMinus text).2.length ≤ text.length := by
  unfold splitMinus
  split <;> simp

theorem length_readCharacters {text cs rest : List Char}
    (h : readCharacters text = .ok (cs, rest)) : rest.length ≤ text.length := by
  fun_induction readCharacters text generalizing cs rest with
  | case1 => simp at h
  | case2 later =>
    simp only [Except.ok.injEq, Prod.mk.injEq] at h
    simp [← h.2]
  | case3 => simp at h
  | case4 later c later' he ih =>
    obtain ⟨_, hr, _⟩ := readAs_eq_ok.mp h
    have := ih hr
    have := length_readEscape he
    simp only [List.length_cons]
    omega
  | case5 => simp at h
  | case6 c later _ _ _ ih =>
    obtain ⟨_, hr, _⟩ := readAs_eq_ok.mp h
    have := ih hr
    simp only [List.length_cons]
    omega

theorem length_readBlock {text raw rest : List Char}
    (h : readBlock text = .ok (raw, rest)) : rest.length ≤ text.length := by
  fun_induction readBlock text generalizing raw rest with
  | case1 => simp at h
  | case2 later =>
    simp only [Except.ok.injEq, Prod.mk.injEq] at h
    simp only [← h.2, List.length_cons]
    omega
  | case3 later ih =>
    obtain ⟨_, hr, _⟩ := readAs_eq_ok.mp h
    have := ih hr
    simp only [List.length_cons]
    omega
  | case4 c later _ _ ih =>
    obtain ⟨_, hr, _⟩ := readAs_eq_ok.mp h
    have := ih hr
    simp only [List.length_cons]
    omega

theorem length_readQuotation {text rest : List Char} {token : Token}
    (h : readQuotation text = .ok (token, rest)) : rest.length ≤ text.length := by
  unfold readQuotation at h
  split at h <;> obtain ⟨_, hr, _⟩ := readAs_eq_ok.mp h
  · exact Nat.le_succ_of_le (Nat.le_succ_of_le (length_readBlock hr))
  · exact length_readCharacters hr

theorem length_readNumber {text rest : List Char} {token : Token}
    (h : readNumber text = .ok (token, rest)) : rest.length < text.length := by
  unfold readNumber at h
  simp only [bind, Except.bind] at h
  split at h
  · simp at h
  next whole hw =>
    split at h
    · simp at h
    next fraction hf =>
      split at h
      · simp at h
      next exponent he =>
        split at h
        · simp at h
        · simp only [Except.ok.injEq, Prod.mk.injEq] at h
          have := length_splitMinus text
          have := length_readWhole (show _ = Except.ok (whole.1, whole.2) from hw)
          have := length_readFraction (show _ = Except.ok (fraction.1, fraction.2) from hf)
          have := length_readExponent (show _ = Except.ok (exponent.1, exponent.2) from he)
          rw [← h.2]
          omega

theorem length_readToken {c : Char} {text rest : List Char} {token : Token}
    (h : readToken c text = .ok (token, rest)) : rest.length ≤ text.length := by
  unfold readToken at h
  split at h
  · simp only [Except.ok.injEq, Prod.mk.injEq] at h
    simp [h.2]
  · split at h
    · exact length_readQuotation h
    · split at h
      · exact Nat.le_of_lt_succ (length_readNumber h)
      · split at h
        next hs =>
          simp only [readName, Except.ok.injEq, Prod.mk.injEq] at h
          rw [← h.2, List.dropWhile_cons_of_pos (by simp [isNamePart, hs])]
          exact length_dropWhile_le _ _
        · split at h
          next => simp only [Except.ok.injEq, Prod.mk.injEq] at h
                  simp only [← h.2, List.length_cons]; omega
          · simp at h
          · simp at h

/-! ### The tokens of a text -/

/-- A token and the text from its first character on; for a place that cannot be read, the text
from that place on. -/
structure Lexeme where
  token : Token
  text : List Char
  deriving DecidableEq, Repr

def lexemes (text : List Char) : List Lexeme :=
  match _hi : dropIgnored false text with
  | [] => []
  | c :: rest =>
    match _ht : readToken c rest with
    | .ok (token, rest') => ⟨token, c :: rest⟩ :: lexemes rest'
    | .error stuck => [⟨.unreadable stuck.fault, stuck.rest⟩]
termination_by text.length
decreasing_by
  have hi := length_dropIgnored false text
  rw [_hi, List.length_cons] at hi
  have := length_readToken _ht
  omega

end QueryRegistry
