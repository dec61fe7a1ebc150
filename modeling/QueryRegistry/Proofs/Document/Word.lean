import QueryRegistry.Document.Lexer

/-! Names and numbers as the reader of tokens takes them: as much of the text as can belong to them. So
one that is written out again is read as the same token, if what stands behind it cannot belong to it
either. -/

namespace QueryRegistry

/-- The text goes on with no character of the given kind. -/
def Stops (kind : Char → Bool) (text : List Char) : Prop :=
  ∀ c ∈ text.head?, kind c = false

section

variable {kind : Char → Bool} {word rest : List Char}

theorem Stops.mono {kind' : Char → Bool} (h : Stops kind rest)
    (himp : ∀ c, kind' c = true → kind c = true) : Stops kind' rest := by
  intro c hc
  have hk := h c hc
  refine Bool.eq_false_iff.mpr fun hk' => ?_
  rw [himp c hk'] at hk
  simp at hk

theorem stops_cons {c : Char} (h : kind c = false) : Stops kind (c :: rest) := by
  intro d hd
  obtain rfl : c = d := by simpa using hd
  exact h

theorem takeWhile_of_stops (hw : ∀ c ∈ word, kind c = true) (hr : Stops kind rest) :
    (word ++ rest).takeWhile kind = word := by
  rw [List.takeWhile_append_of_pos hw]
  cases rest with
  | nil => simp
  | cons c rest => simp [hr c rfl]

theorem dropWhile_of_stops (hw : ∀ c ∈ word, kind c = true) (hr : Stops kind rest) :
    (word ++ rest).dropWhile kind = rest := by
  rw [List.dropWhile_append_of_pos hw]
  cases rest with
  | nil => rfl
  | cons c rest => simp [hr c rfl]

theorem stops_dropWhile (text : List Char) : Stops kind (text.dropWhile kind) := by
  intro c hc
  have hnot := List.head?_dropWhile_not kind text
  rwa [Option.mem_def.mp hc] at hnot

theorem stops_of_any_eq_false (h : rest.head?.any kind = false) : Stops kind rest := by
  intro c hc
  rwa [Option.mem_def.mp hc] at h

end

/-! ### Names -/

def IsName (text : List Char) : Prop :=
  ∃ c rest, text = c :: rest ∧ isNameStart c = true ∧ ∀ d ∈ rest, isNamePart d = true

theorem isName_cons_iff {c : Char} {rest : List Char} :
    IsName (c :: rest) ↔ (isNameStart c && rest.all isNamePart) = true := by
  rw [Bool.and_eq_true, List.all_eq_true]
  constructor
  · rintro ⟨d, tail, he, hd, ht⟩
    obtain ⟨rfl, rfl⟩ := List.cons.inj he
    exact ⟨hd, ht⟩
  · rintro ⟨hc, hr⟩
    exact ⟨c, rest, rfl, hc, hr⟩

instance : DecidablePred IsName
  | [] => .isFalse fun ⟨_, _, h, _⟩ => List.cons_ne_nil _ _ h.symm
  | _ :: _ => decidable_of_iff _ isName_cons_iff.symm

theorem isNamePart_of_isNameStart {c : Char} (h : isNameStart c = true) : isNamePart c = true := by
  simp [isNamePart, h]

theorem IsName.isNamePart {text : List Char} (h : IsName text) :
    ∀ c ∈ text, isNamePart c = true := by
  obtain ⟨c, rest, rfl, hc, hr⟩ := h
  intro d hd
  rcases List.mem_cons.mp hd with rfl | hd
  · exact isNamePart_of_isNameStart hc
  · exact hr d hd

theorem isName_takeWhile {c : Char} (h : isNameStart c = true) (rest : List Char) :
    IsName ((c :: rest).takeWhile isNamePart) := by
  rw [List.takeWhile_cons_of_pos (isNamePart_of_isNameStart h)]
  exact ⟨c, _, rfl, h, List.all_eq_true.mp List.all_takeWhile⟩

theorem readName_append {word rest : List Char} (hw : IsName word) (hr : Stops isNamePart rest) :
    readName (word ++ rest) = (.name (String.ofList word), rest) := by
  rw [readName, takeWhile_of_stops hw.isNamePart hr, dropWhile_of_stops hw.isNamePart hr]

/-! ### Numbers -/

def IsDigits (text : List Char) : Prop :=
  text ≠ [] ∧ ∀ c ∈ text, isDigit c = true

def IsWhole (text : List Char) : Prop :=
  text = ['0'] ∨ (IsDigits text ∧ text.head? ≠ some '0')

def IsFraction (text : List Char) : Prop :=
  text = [] ∨ ∃ digits, IsDigits digits ∧ text = '.' :: digits

def IsExponent (text : List Char) : Prop :=
  text = [] ∨ ∃ mark sign digits, isExponentMark mark = true ∧
    (sign = [] ∨ ∃ c, isSign c = true ∧ sign = [c]) ∧ IsDigits digits ∧
    text = mark :: (sign ++ digits)

structure Numeral where
  minus : List Char
  whole : List Char
  fraction : List Char
  exponent : List Char
  isMinus : minus = [] ∨ minus = ['-']
  isWhole : IsWhole whole
  isFraction : IsFraction fraction
  isExponent : IsExponent exponent

namespace Numeral

def text (n : Numeral) : List Char := n.minus ++ n.whole ++ n.fraction ++ n.exponent

def token (n : Numeral) : Token :=
  if n.fraction.isEmpty && n.exponent.isEmpty then .int (String.ofList n.text)
  else .float (String.ofList n.text)

end Numeral

theorem readDigits_eq_ok {text digits rest : List Char}
    (h : readDigits text = .ok (digits, rest)) :
    IsDigits digits ∧ text = digits ++ rest ∧ Stops isDigit rest := by
  rw [readDigits] at h
  split at h
  · simp at h
  next hne =>
    obtain ⟨rfl, rfl⟩ := Prod.mk.inj (Except.ok.inj h)
    exact ⟨⟨hne, List.all_eq_true.mp List.all_takeWhile⟩, List.takeWhile_append_dropWhile.symm,
      stops_dropWhile text⟩

theorem readDigits_append {digits rest : List Char} (hd : IsDigits digits)
    (hr : Stops isDigit rest) : readDigits (digits ++ rest) = .ok (digits, rest) := by
  rw [readDigits, takeWhile_of_stops hd.2 hr, dropWhile_of_stops hd.2 hr]
  cases digits with
  | nil => exact absurd rfl hd.1
  | cons c digits => rfl

theorem readWhole_eq_ok {text whole rest : List Char}
    (h : readWhole text = .ok (whole, rest)) :
    IsWhole whole ∧ text = whole ++ rest ∧ Stops isDigit rest := by
  rw [readWhole.eq_def] at h
  split at h
  next rest' =>
    split at h
    · simp at h
    next hany =>
      obtain ⟨rfl, rfl⟩ := Prod.mk.inj (Except.ok.inj h)
      exact ⟨.inl rfl, rfl, stops_of_any_eq_false (Bool.eq_false_iff.mpr hany)⟩
  next hne =>
    obtain ⟨hd, he, hstops⟩ := readDigits_eq_ok h
    refine ⟨.inr ⟨hd, fun hz => ?_⟩, he, hstops⟩
    cases whole with
    | nil => simp at hz
    | cons c whole =>
      obtain rfl : c = '0' := by simpa using hz
      exact hne _ he

theorem readWhole_append {whole rest : List Char} (hw : IsWhole whole) (hr : Stops isDigit rest) :
    readWhole (whole ++ rest) = .ok (whole, rest) := by
  rcases hw with rfl | ⟨hd, hz⟩
  · rw [List.singleton_append, readWhole, if_neg]
    cases rest with
    | nil => simp
    | cons c rest => simp [hr c rfl]
  · rw [readWhole, readDigits_append hd hr]
    intro tail he
    cases whole with
    | nil => exact hd.1 rfl
    | cons c whole =>
      obtain rfl := (List.cons.inj he).1
      exact hz rfl

theorem readFraction_eq_ok {text fraction rest : List Char} (hs : Stops isDigit text)
    (h : readFraction text = .ok (fraction, rest)) :
    IsFraction fraction ∧ text = fraction ++ rest ∧ Stops isDigit rest := by
  rw [readFraction.eq_def] at h
  split at h
  · obtain ⟨digits, hread, rfl⟩ := readAs_eq_ok.mp h
    obtain ⟨hd, rfl, hstops⟩ := readDigits_eq_ok hread
    exact ⟨.inr ⟨digits, hd, rfl⟩, rfl, hstops⟩
  · obtain ⟨rfl, rfl⟩ := Prod.mk.inj (Except.ok.inj h)
    exact ⟨.inl rfl, rfl, hs⟩

theorem readFraction_append {fraction rest : List Char} (hf : IsFraction fraction)
    (hd : Stops isDigit rest) (hp : rest.head? ≠ some '.') :
    readFraction (fraction ++ rest) = .ok (fraction, rest) := by
  rcases hf with rfl | ⟨digits, hdigits, rfl⟩
  · rw [List.nil_append, readFraction]
    rintro tail rfl
    exact hp rfl
  · rw [List.cons_append, readFraction, readDigits_append hdigits hd]
    rfl

theorem readExponent_eq_ok {text exponent rest : List Char} (hs : Stops isDigit text)
    (h : readExponent text = .ok (exponent, rest)) :
    IsExponent exponent ∧ text = exponent ++ rest ∧ Stops isDigit rest := by
  rw [readExponent.eq_def] at h
  split at h
  · obtain ⟨rfl, rfl⟩ := Prod.mk.inj (Except.ok.inj h)
    exact ⟨.inl rfl, rfl, hs⟩
  next mark rest' =>
    split at h
    next hmark =>
      split at h
      · simp at h
      next sign rest' =>
        split at h
        next hsign =>
          obtain ⟨digits, hread, rfl⟩ := readAs_eq_ok.mp h
          obtain ⟨hd, rfl, hstops⟩ := readDigits_eq_ok hread
          exact ⟨.inr ⟨mark, [sign], digits, hmark, .inr ⟨sign, hsign, rfl⟩, hd, rfl⟩, rfl, hstops⟩
        · obtain ⟨digits, hread, rfl⟩ := readAs_eq_ok.mp h
          obtain ⟨hd, he, hstops⟩ := readDigits_eq_ok hread
          exact ⟨.inr ⟨mark, [], digits, hmark, .inl rfl, hd, rfl⟩, congrArg _ he, hstops⟩
    · obtain ⟨rfl, rfl⟩ := Prod.mk.inj (Except.ok.inj h)
      exact ⟨.inl rfl, rfl, hs⟩

theorem isSign_of_isDigit {c : Char} (h : isDigit c = true) : isSign c = false := by
  refine Bool.eq_false_iff.mpr fun hs => ?_
  simp only [isSign, Bool.or_eq_true, beq_iff_eq] at hs
  rcases hs with rfl | rfl <;> exact absurd h (by decide)

theorem readExponent_append {exponent rest : List Char} (he : IsExponent exponent)
    (hd : Stops isDigit rest) (hm : Stops isExponentMark rest) :
    readExponent (exponent ++ rest) = .ok (exponent, rest) := by
  rcases he with rfl | ⟨mark, sign, digits, hmark, hsign, hdigits, rfl⟩
  · cases rest with
    | nil => rfl
    | cons c rest =>
      have hc : isExponentMark c = false := hm c rfl
      simp [readExponent, hc]
  · have hread := readDigits_append hdigits hd
    rcases hsign with rfl | ⟨c, hc, rfl⟩
    · cases digits with
      | nil => exact absurd rfl hdigits.1
      | cons d digits =>
        have hs := isSign_of_isDigit (hdigits.2 d List.mem_cons_self)
        simp only [List.nil_append, List.cons_append] at hread ⊢
        rw [readExponent, if_pos hmark]
        simp only [hs, hread]
        rfl
    · simp only [List.nil_append, List.cons_append]
      rw [readExponent, if_pos hmark]
      simp only [hc, if_true, hread]
      rfl

/-- What may not stand right behind a name or a number that ends there. -/
def goesOn (c : Char) : Bool := isNamePart c || c == '.'

theorem splitMinus_eq (text : List Char) :
    ((splitMinus text).1 = [] ∨ (splitMinus text).1 = ['-']) ∧
      text = (splitMinus text).1 ++ (splitMinus text).2 := by
  fun_cases splitMinus text with
  | case1 rest => exact ⟨.inr rfl, rfl⟩
  | case2 _ => exact ⟨.inl rfl, rfl⟩

/-- A number that is read ends where nothing could belong to it. -/
theorem exists_numeral_of_readNumber {text rest : List Char} {token : Token}
    (h : readNumber text = .ok (token, rest)) :
    ∃ n : Numeral, token = n.token ∧ text = n.text ++ rest ∧ Stops goesOn rest := by
  unfold readNumber at h
  simp only [bind, Except.bind] at h
  split at h
  · simp at h
  next whole hw =>
    split at h
    · simp at h
    next fraction hf =>
      split at h
      · simp at h
      next exponent he =>
        split at h
        · simp at h
        next hany =>
          obtain ⟨rfl, rfl⟩ := Prod.mk.inj (Except.ok.inj h)
          obtain ⟨hminus, htext⟩ := splitMinus_eq text
          obtain ⟨hwhole, hw', hws⟩ := readWhole_eq_ok hw
          obtain ⟨hfraction, hf', hfs⟩ := readFraction_eq_ok hws hf
          obtain ⟨hexponent, he', hes⟩ := readExponent_eq_ok hfs he
          refine ⟨⟨_, whole.1, fraction.1, exponent.1, hminus, hwhole, hfraction, hexponent⟩, rfl, ?_,
            fun c hc => ?_⟩
          · simp only [Numeral.text, List.append_assoc]
            rw [← he', ← hf', ← hw', ← htext]
          · have hcontinues := stops_of_any_eq_false (Bool.eq_false_iff.mpr hany) c hc
            rw [continuesNumber, Bool.or_eq_false_iff] at hcontinues
            simp [goesOn, isNamePart, hcontinues.1, hcontinues.2, hes c hc]

theorem IsWhole.exists_digit {whole : List Char} (h : IsWhole whole) :
    ∃ c rest, whole = c :: rest ∧ isDigit c = true := by
  rcases h with rfl | ⟨hd, -⟩
  · exact ⟨'0', [], rfl, by decide⟩
  · cases whole with
    | nil => exact absurd rfl hd.1
    | cons c rest => exact ⟨c, rest, rfl, hd.2 c List.mem_cons_self⟩

theorem splitMinus_append {minus whole rest : List Char} (hm : minus = [] ∨ minus = ['-'])
    (hw : IsWhole whole) : splitMinus (minus ++ (whole ++ rest)) = (minus, whole ++ rest) := by
  rcases hm with rfl | rfl
  · obtain ⟨c, tail, rfl, hc⟩ := hw.exists_digit
    rw [List.nil_append, List.cons_append, splitMinus]
    rintro later he
    obtain rfl := (List.cons.inj he).1
    exact absurd hc (by decide)
  · rfl

theorem IsExponent.stops {exponent rest : List Char} {kind : Char → Bool} (h : IsExponent exponent)
    (hmark : ∀ c, isExponentMark c = true → kind c = false) (hr : Stops kind rest) :
    Stops kind (exponent ++ rest) := by
  rcases h with rfl | ⟨mark, sign, digits, hm, -, -, rfl⟩
  · exact hr
  · exact stops_cons (hmark mark hm)

theorem IsFraction.stops {fraction rest : List Char} (h : IsFraction fraction)
    (hr : Stops isDigit rest) : Stops isDigit (fraction ++ rest) := by
  rcases h with rfl | ⟨digits, -, rfl⟩
  · exact hr
  · exact stops_cons (by decide)

theorem not_isDigit_of_isExponentMark {c : Char} (h : isExponentMark c = true) :
    isDigit c = false ∧ (c == '.') = false := by
  simp only [isExponentMark, Bool.or_eq_true, beq_iff_eq] at h
  rcases h with rfl | rfl <;> decide

theorem goesOn_of_isDigit {c : Char} (h : isDigit c = true) : goesOn c = true := by
  simp [goesOn, isNamePart, h]

theorem goesOn_of_isExponentMark {c : Char} (h : isExponentMark c = true) : goesOn c = true := by
  simp only [isExponentMark, Bool.or_eq_true, beq_iff_eq] at h
  rcases h with rfl | rfl <;> decide

theorem goesOn_of_isNamePart {c : Char} (h : isNamePart c = true) : goesOn c = true := by
  simp [goesOn, h]

theorem readNumber_append (n : Numeral) {rest : List Char} (hr : Stops goesOn rest) :
    readNumber (n.text ++ rest) = .ok (n.token, rest) := by
  have hdigit : Stops isDigit rest := hr.mono fun _ => goesOn_of_isDigit
  have hmark : Stops isExponentMark rest := hr.mono fun _ => goesOn_of_isExponentMark
  have hpoint : Stops (· == '.') rest := hr.mono fun c hc => by simp [goesOn, hc]
  have hdigit' : Stops isDigit (n.exponent ++ rest) :=
    n.isExponent.stops (fun _ hm => (not_isDigit_of_isExponentMark hm).1) hdigit
  have hpoint' : Stops (· == '.') (n.exponent ++ rest) :=
    n.isExponent.stops (fun _ hm => (not_isDigit_of_isExponentMark hm).2) hpoint
  have hend : rest.head?.any continuesNumber = false := by
    cases rest with
    | nil => rfl
    | cons c rest =>
      have hc := hr c rfl
      simp only [goesOn, isNamePart, Bool.or_eq_false_iff] at hc
      simp [continuesNumber, hc.1.1, hc.2]
  have hhead : (n.exponent ++ rest).head? ≠ some '.' := fun he => by
    have hc := hpoint' '.' he
    simp at hc
  rw [readNumber, Numeral.text]
  simp only [List.append_assoc]
  rw [splitMinus_append n.isMinus n.isWhole]
  simp only [readWhole_append n.isWhole (n.isFraction.stops hdigit'),
    readFraction_append n.isFraction hdigit' hhead, readExponent_append n.isExponent hdigit hmark,
    bind, Except.bind, hend]
  simp [Numeral.token, Numeral.text]

end QueryRegistry
