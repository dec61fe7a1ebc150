import Mathlib.Data.List.DropRight
import QueryRegistry.Json.Reader
import QueryRegistry.Json.Writer
import QueryRegistry.Proofs.Text.Hexadecimal

/-! Reading back what is written as JSON. An object of texts has its members again, in order and each with
its text, whatever characters stand in them; so that no two objects are written alike. -/

namespace QueryRegistry

namespace Json

variable {rest : List Char}

/-! ### Texts -/

theorem readChar_plain {c : Char} (hq : c ≠ '"') (hs : c ≠ '\\') (hc : ¬ c.toNat < 0x20) :
    readChar (c :: rest) = some (c, rest) := by
  rw [readChar]
  · simp [hq, hs, hc]
  · exact fun _ hslash => absurd hslash hs
  · exact fun _ _ hslash => absurd hslash hs

theorem readChar_escape (c : Char) : readChar (escape c ++ rest) = some (c, rest) := by
  fun_cases escape c with
  | case1 => rfl
  | case2 => rfl
  | case3 => rfl
  | case4 => rfl
  | case5 => rfl
  | case6 => rfl
  | case7 => rfl
  | case8 _ _ _ _ _ _ _ hcontrol =>
    refine numberedEscape?_append (length_hexDigits 4 _) ?_ rest
    rw [hexNumber?_hexDigits, Nat.mod_eq_of_lt (by omega)]
  | case9 _ hq hs _ _ _ _ _ hcontrol => exact readChar_plain hq hs hcontrol

theorem escape_eq_cons (c : Char) : ∃ d tail, escape c = d :: tail ∧ d ≠ '"' := by
  fun_cases escape c with
  | case1 => exact ⟨_, _, rfl, by decide⟩
  | case2 => exact ⟨_, _, rfl, by decide⟩
  | case3 => exact ⟨_, _, rfl, by decide⟩
  | case4 => exact ⟨_, _, rfl, by decide⟩
  | case5 => exact ⟨_, _, rfl, by decide⟩
  | case6 => exact ⟨_, _, rfl, by decide⟩
  | case7 => exact ⟨_, _, rfl, by decide⟩
  | case8 => exact ⟨_, _, rfl, by decide⟩
  | case9 _ hq _ _ _ _ _ _ _ => exact ⟨c, [], rfl, hq⟩

theorem readChars_quote : readChars ('"' :: rest) = some ([], rest) := by
  rw [readChars]

theorem readChars_escape (c : Char) :
    readChars (escape c ++ rest) = (readChars rest).map fun read => (c :: read.1, read.2) := by
  rw [readChars]
  · split
    next hn => rw [readChar_escape] at hn; simp at hn
    next hs =>
      rw [readChar_escape] at hs
      obtain ⟨rfl, rfl⟩ := Prod.mk.inj (Option.some.inj hs)
      rfl
  · obtain ⟨d, tail, hc, hd⟩ := escape_eq_cons c
    rw [hc]
    exact fun _ hcons => hd (List.cons.inj hcons).1

theorem readChars_flatMap_escape (text : List Char) :
    readChars (text.flatMap escape ++ '"' :: rest) = some (text, rest) := by
  induction text with
  | nil => exact readChars_quote
  | cons c text ih =>
    rw [List.flatMap_cons, List.append_assoc, readChars_escape, ih]
    rfl

theorem readText_writeText (text : String) : readText (writeText text ++ rest) = some (text, rest) := by
  have hread : readText (writeText text ++ rest) =
      (readChars (text.toList.flatMap escape ++ ['"'] ++ rest)).map
        fun read => (String.ofList read.1, read.2) := rfl
  rw [hread, List.append_assoc, List.singleton_append, readChars_flatMap_escape, Option.map_some,
    String.ofList_toList]

theorem readValue_writeText (named : Bool) (fuel : Nat) (text : String) :
    readValue named (fuel + 1) (writeText text ++ rest) = some (string text, rest) := by
  have hread : readValue named (fuel + 1) (writeText text ++ rest) =
      (readText (writeText text ++ rest)).map fun read => (string read.1, read.2) := by
    rw [writeText, List.cons_append, List.cons_append, readValue]
  rw [hread, readText_writeText]
  rfl

/-! ### Members -/

theorem dropBlanks_dropBlanks (text : List Char) : dropBlanks (dropBlanks text) = dropBlanks text :=
  List.dropWhile_idempotent _ _

theorem dropBlanks_writeText (text : String) :
    dropBlanks (writeText text ++ rest) = writeText text ++ rest := rfl

theorem dropBlanks_writeMember (member : String × String) :
    dropBlanks (writeMember member ++ rest) =
      writeText member.1 ++ (':' :: ' ' :: (writeText member.2 ++ rest)) := by
  have hdrop : ∀ later, dropBlanks (memberBreak ++ later) = dropBlanks later := fun _ => rfl
  rw [writeMember, List.append_assoc, List.append_assoc, List.append_assoc, hdrop,
    dropBlanks_writeText]
  rfl

theorem readMembers_dropBlanks (named : Bool) (fuel : Nat) (text : List Char) :
    readMembers named fuel (dropBlanks text) = readMembers named fuel text := by
  cases fuel with
  | zero => rfl
  | succ fuel => rw [readMembers, readMembers, dropBlanks_dropBlanks]

section Member

variable (named : Bool) (fuel : Nat) (member : String × String)

theorem readValue_blank_writeText (later : List Char) :
    readValue named (fuel + 1) (dropBlanks (' ' :: (writeText member.2 ++ later))) =
      some (string member.2, later) :=
  readValue_writeText named fuel member.2

theorem readMembers_last :
    readMembers named (fuel + 2) (writeMember member ++ '\n' :: '\x7d' :: rest) =
      some ([(member.1, string member.2)], rest) := by
  have hcolon : ∀ later, dropBlanks (':' :: later) = ':' :: later := fun _ => rfl
  have hbrace : dropBlanks ('\n' :: '\x7d' :: rest) = '\x7d' :: rest := rfl
  rw [readMembers, dropBlanks_writeMember, readText_writeText]
  simp only [hcolon, readValue_blank_writeText, hbrace]

theorem readMembers_comma :
    readMembers named (fuel + 2) (writeMember member ++ ',' :: rest) =
      (readMembers named (fuel + 1) rest).map
        fun read => ((member.1, string member.2) :: read.1, read.2) := by
  have hcolon : ∀ later, dropBlanks (':' :: later) = ':' :: later := fun _ => rfl
  have hcomma : dropBlanks (',' :: rest) = ',' :: rest := rfl
  rw [readMembers, dropBlanks_writeMember, readText_writeText]
  simp only [hcolon, readValue_blank_writeText, hcomma]

end Member

/-- The members are read with fuel for each of them and for the value of the last. -/
theorem readMembers_writeMembers (named : Bool) {fuel : Nat} {members : List (String × String)}
    (hne : members ≠ []) (hfuel : members.length < fuel) :
    readMembers named fuel (writeMembers members ++ '\n' :: '\x7d' :: rest) =
      some (members.map fun member => (member.1, string member.2), rest) := by
  induction members generalizing fuel with
  | nil => exact absurd rfl hne
  | cons member members ih =>
    obtain ⟨fuel, rfl⟩ : ∃ less, fuel = less + 2 := by
      rw [List.length_cons] at hfuel
      exact ⟨fuel - 2, by omega⟩
    cases members with
    | nil => exact readMembers_last named fuel member
    | cons next members =>
      have hlength : (next :: members).length < fuel + 1 := by simpa using hfuel
      have hlater := ih (List.cons_ne_nil _ _) hlength
      rw [writeMembers, List.append_assoc, List.cons_append, readMembers_comma, hlater]
      · rfl
      · exact List.cons_ne_nil _ _

theorem length_le_length_writeMembers (members : List (String × String)) :
    members.length ≤ (writeMembers members).length := by
  fun_induction writeMembers members with
  | case1 => exact Nat.le_refl _
  | case2 member => simp [writeMember, memberBreak]
  | case3 member members _ ih =>
    simp only [List.length_cons, List.length_append]
    omega

theorem dropBlanks_writeMembers {members : List (String × String)} (hne : members ≠ []) :
    ∃ tail, dropBlanks (writeMembers members ++ rest) = '"' :: tail := by
  cases members with
  | nil => exact absurd rfl hne
  | cons member members =>
    cases members with
    | nil => exact ⟨_, dropBlanks_writeMember member⟩
    | cons next members =>
      rw [writeMembers, List.append_assoc]
      · exact ⟨_, dropBlanks_writeMember member⟩
      · exact List.cons_ne_nil _ _

theorem readValue_brace (named : Bool) (fuel : Nat) {text tail : List Char}
    (htext : dropBlanks text = '"' :: tail) :
    readValue named (fuel + 1) ('\x7b' :: text) =
      (readMembers named fuel text).map fun read => (object read.1, read.2) := by
  rw [readValue, ← readMembers_dropBlanks, htext]
  rfl

/-- An object is read back with all its members, in the order in which they were given. -/
theorem read_writeObject (members : List (String × String)) :
    read (writeObject members) =
      some (object (members.map fun member => (member.1, string member.2))) := by
  by_cases hne : members = []
  · subst hne
    rfl
  · obtain ⟨tail, htail⟩ :
        ∃ tail, dropBlanks (writeMembers members ++ ['\n', '\x7d']) = '"' :: tail :=
      dropBlanks_writeMembers hne
    have htext : (writeObject members).toList = '\x7b' :: (writeMembers members ++ ['\n', '\x7d']) := by
      simp [writeObject, hne]
    have hdrop : dropBlanks (writeObject members).toList = (writeObject members).toList := by
      rw [htext]
      rfl
    have hfuel : members.length < 2 * (writeObject members).toList.length := by
      have hle := length_le_length_writeMembers members
      rw [htext, List.length_cons, List.length_append]
      omega
    rw [read, readWith, hdrop]
    generalize 2 * (writeObject members).toList.length = fuel at hfuel
    rw [htext, readValue_brace false fuel htail, readMembers_writeMembers false hne hfuel]
    rfl

theorem writeObject_injective {members others : List (String × String)}
    (h : writeObject members = writeObject others) : members = others := by
  have hread := read_writeObject members
  rw [h, read_writeObject, Option.some.injEq, object.injEq] at hread
  have hpair : Function.Injective fun member : String × String => (member.1, string member.2) := by
    rintro ⟨name, text⟩ ⟨name', text'⟩ he
    simpa using he
  exact (List.map_injective_iff.mpr hpair hread).symm

end Json

end QueryRegistry
