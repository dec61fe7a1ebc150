import Mathlib.Algebra.Group.Nat.Defs
import QueryRegistry.Text.Escape

/-! Numbers in base sixteen are read back. As many digits as a number has room for spell it again, in
lower case or in upper case, and so a character is found again by its number. -/

namespace QueryRegistry

theorem hexNumber?_concat (digits : List Char) (c : Char) :
    hexNumber? (digits ++ [c]) =
      (hexNumber? digits).bind fun n => (hexDigit? c).map (16 * n + ·) := by
  rw [hexNumber?, List.foldlM_append]
  simp [hexNumber?]

theorem hexNumber?_map_hexDigits {f : Char → Char}
    (hf : ∀ d < 16, hexDigit? (f (Nat.digitChar d)) = some d) (width n : Nat) :
    hexNumber? ((hexDigits width n).map f) = some (n % 16 ^ width) := by
  induction width generalizing n with
  | zero =>
    rw [Nat.pow_zero, Nat.mod_one]
    rfl
  | succ width ih =>
    have hdigit := hf (n % 16) (Nat.mod_lt _ (by decide))
    have hnumber : 16 * (n / 16 % 16 ^ width) + n % 16 = n % 16 ^ (width + 1) := by
      rw [Nat.pow_succ, Nat.mul_comm (16 ^ width), Nat.mod_mul, Nat.add_comm]
    rw [hexDigits, List.map_append, List.map_singleton, hexNumber?_concat, ih, hdigit]
    simp [hnumber]

theorem hexNumber?_hexDigits (width n : Nat) :
    hexNumber? (hexDigits width n) = some (n % 16 ^ width) := by
  have h := hexNumber?_map_hexDigits (f := id) (by decide) width n
  rwa [List.map_id] at h

theorem hexNumber?_upperHexDigits (width n : Nat) :
    hexNumber? (upperHexDigits width n) = some (n % 16 ^ width) :=
  hexNumber?_map_hexDigits (by decide) width n

theorem length_upperHexDigits (width n : Nat) : (upperHexDigits width n).length = width := by
  rw [upperHexDigits, List.length_map, length_hexDigits]

/-! ### Numbered escapes -/

theorem fourDigits?_append {digits : List Char} {n : Nat} (hlen : digits.length = 4)
    (hn : hexNumber? digits = some n) (rest : List Char) : fourDigits? (digits ++ rest) = some n := by
  have htake : (digits ++ rest).take 4 = digits := by rw [← hlen, List.take_left]
  rw [fourDigits?, htake, if_pos hlen, hn]

theorem exists_digits_of_fourDigits? {text : List Char} {n : Nat} (h : fourDigits? text = some n) :
    ∃ digits, digits.length = 4 ∧ hexNumber? digits = some n ∧ text = digits ++ text.drop 4 := by
  rw [fourDigits?] at h
  split at h
  next hlen => exact ⟨text.take 4, hlen, h, (List.take_append_drop 4 text).symm⟩
  · simp at h

/-- Four digits that spell the number of a character are the escape of that character. -/
theorem numberedEscape?_append {digits : List Char} {c : Char} (hlen : digits.length = 4)
    (hn : hexNumber? digits = some c.toNat) (rest : List Char) :
    numberedEscape? (digits ++ rest) = some (c, rest) := by
  have hdrop : (digits ++ rest).drop 4 = rest := by rw [← hlen, List.drop_left]
  rw [numberedEscape?, fourDigits?_append hlen hn]
  simp only [scalar?_toNat, hdrop]

theorem exists_taken_of_numberedEscape? {text rest : List Char} {c : Char}
    (h : numberedEscape? text = some (c, rest)) :
    ∃ taken, text = taken ++ rest ∧
      ∀ rest', numberedEscape? (taken ++ rest') = some (c, rest') := by
  rw [numberedEscape?] at h
  split at h
  · simp at h
  next n hfour =>
    obtain ⟨digits, hlen, hn, htext⟩ := exists_digits_of_fourDigits? hfour
    split at h
    next d hscalar =>
      obtain ⟨rfl, rfl⟩ := Prod.mk.inj (Option.some.inj h)
      refine ⟨digits, htext, fun rest' => ?_⟩
      have hdrop : (digits ++ rest').drop 4 = rest' := by rw [← hlen, List.drop_left]
      rw [numberedEscape?, fourDigits?_append hlen hn]
      simp only [hscalar, hdrop]
    next hscalar =>
      split at h
      next later hlater =>
        obtain ⟨d, hpair, hd⟩ := Option.map_eq_some_iff.mp h
        obtain ⟨rfl, rfl⟩ := Prod.mk.inj hd
        obtain ⟨m, hfour', hm⟩ := Option.bind_eq_some_iff.mp hpair
        obtain ⟨digits', hlen', hn', htext'⟩ := exists_digits_of_fourDigits? hfour'
        refine ⟨digits ++ '\\' :: 'u' :: digits', ?_, fun rest' => ?_⟩
        · rw [htext, hlater]
          simpa using htext'
        · have hdrop : (digits ++ '\\' :: 'u' :: (digits' ++ rest')).drop 4 =
              '\\' :: 'u' :: (digits' ++ rest') := by rw [← hlen, List.drop_left]
          have hdrop' : (digits' ++ rest').drop 4 = rest' := by rw [← hlen', List.drop_left]
          rw [List.append_assoc, List.cons_append, List.cons_append, numberedEscape?,
            fourDigits?_append hlen hn]
          simp only [hscalar, hdrop]
          rw [fourDigits?_append hlen' hn', hdrop', Option.bind_some, hm, Option.map_some]
      · simp at h

end QueryRegistry
