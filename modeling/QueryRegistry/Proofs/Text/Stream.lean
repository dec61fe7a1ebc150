import QueryRegistry.Proofs.Text.Lines
import QueryRegistry.Text.Stream

/-! Reading in pieces comes to what decoding all the bytes at once comes to. A text that can be decoded is
read with its line ends unified; a fault is that of the bytes, told by its place behind what had been
taken before. -/

namespace QueryRegistry

namespace Utf8

def Fault.shift (fault : Fault) (n : Nat) : Fault := { fault with offset := n + fault.offset }

def begunLength (within : Option Begun) : Nat := (within.map (·.bytes.length)).getD 0

section Except

variable {ε α β : Type} {x : Except ε α} {f : α → β}

theorem map_eq_ok_iff {b : β} : x.map f = .ok b ↔ ∃ a, x = .ok a ∧ f a = b := by
  cases x <;> simp [Except.map]

theorem map_eq_error_iff {e : ε} : x.map f = .error e ↔ x = .error e := by
  cases x <;> simp [Except.map]

end Except

variable {offset : Nat} {within : Option Begun} {bytes more : List UInt8} {chars : List Char}
  {fault : Fault}

theorem bytes_of_start {b : UInt8} {begun : Begun} (h : start b = .begun begun) :
    begun.bytes = [b] := by
  unfold start at h
  grind

/-- All that one byte can come to: it ends a character, it goes on within one, or it is at fault. -/
theorem decodeFrom_cons_cases (within : Option Begun) (b : UInt8) :
    (∃ c, ∀ offset rest, decodeFrom offset within (b :: rest) =
      (decodeFrom (offset + 1) none rest).map (c :: ·)) ∨
    (∃ begun, begun.bytes.length = begunLength within + 1 ∧ ∀ offset rest,
      decodeFrom offset within (b :: rest) = decodeFrom (offset + 1) (some begun) rest) ∨
    ∃ reason shown, reason ≠ .cutOff ∧ ∀ offset rest, decodeFrom offset within (b :: rest) =
      .error ⟨reason, offset - begunLength within, shown⟩ := by
  cases within with
  | none =>
    cases hs : start b with
    | whole c => exact .inl ⟨c, fun offset rest => by rw [decodeFrom, hs]⟩
    | begun begun =>
      refine .inr (.inl ⟨begun, by rw [bytes_of_start hs]; rfl, fun offset rest => ?_⟩)
      rw [decodeFrom, hs]
    | bad => exact .inr (.inr ⟨.badStart, [b], by simp, fun offset rest => by rw [decodeFrom, hs]; rfl⟩)
  | some begun =>
    by_cases hb : (begun.low ≤ b && b ≤ begun.high) = true
    · by_cases hm : begun.missing ≤ 1
      · exact .inl ⟨_, fun offset rest => by rw [decodeFrom, if_pos hb, if_pos hm]⟩
      · refine .inr (.inl ⟨⟨begun.bytes ++ [b], 64 * begun.value + (b &&& 0x3F).toNat,
          begun.missing - 1, 0x80, 0xBF⟩, by simp [begunLength], fun offset rest => ?_⟩)
        rw [decodeFrom, if_pos hb, if_neg hm]
    · exact .inr (.inr ⟨.badContinuation, begun.bytes, by simp, fun offset rest => by
        rw [decodeFrom, if_neg hb]; rfl⟩)

theorem decodeFrom_shift (n : Nat) (h : begunLength within ≤ offset) :
    decodeFrom (n + offset) within bytes = (decodeFrom offset within bytes).mapError (·.shift n) := by
  induction bytes generalizing offset within with
  | nil =>
    cases within with
    | none => rfl
    | some begun =>
      have hle : begun.bytes.length ≤ offset := h
      simp only [decodeFrom, Except.mapError, Fault.shift, Nat.add_sub_assoc hle]
  | cons b rest ih =>
    rcases decodeFrom_cons_cases within b with ⟨c, hc⟩ | ⟨begun, hlen, hb⟩ | ⟨reason, shown, -, hf⟩
    · rw [hc, hc, Nat.add_assoc, ih (Nat.zero_le _)]
      cases decodeFrom (offset + 1) none rest <;> rfl
    · rw [hb, hb, Nat.add_assoc, ih]
      change begun.bytes.length ≤ _
      omega
    · rw [hf, hf, Nat.add_sub_assoc h]
      rfl

theorem decodeFrom_append (h : decodeFrom offset within bytes = .ok chars) :
    decodeFrom offset within (bytes ++ more) =
      (decodeFrom (offset + bytes.length) none more).map (chars ++ ·) := by
  induction bytes generalizing offset within chars with
  | nil =>
    cases within with
    | none =>
      obtain rfl : [] = chars := Except.ok.inj h
      cases hm : decodeFrom offset none more <;> simp [Except.map, hm]
    | some begun => simp [decodeFrom] at h
  | cons b rest ih =>
    rw [List.cons_append, List.length_cons, Nat.add_comm rest.length, ← Nat.add_assoc]
    rcases decodeFrom_cons_cases within b with ⟨c, hc⟩ | ⟨begun, -, hb⟩ | ⟨reason, shown, -, hf⟩
    · rw [hc] at h ⊢
      obtain ⟨later, hr, rfl⟩ := map_eq_ok_iff.mp h
      rw [ih hr]
      cases decodeFrom (offset + 1 + rest.length) none more <;> rfl
    · rw [hb] at h ⊢
      exact ih h
    · simp [hf] at h

/-- Only at its end is a text at fault for what may yet come. -/
theorem decodeFrom_append_of_error (h : decodeFrom offset within bytes = .error fault)
    (hr : fault.reason ≠ .cutOff) : decodeFrom offset within (bytes ++ more) = .error fault := by
  induction bytes generalizing offset within with
  | nil =>
    cases within with
    | none => simp [decodeFrom] at h
    | some begun =>
      obtain rfl := Except.error.inj h
      exact absurd rfl hr
  | cons b rest ih =>
    rw [List.cons_append]
    rcases decodeFrom_cons_cases within b with ⟨c, hc⟩ | ⟨begun, -, hb⟩ | ⟨reason, shown, -, hf⟩
    · rw [hc] at h ⊢
      exact map_eq_error_iff.mpr (ih (map_eq_error_iff.mp h))
    · rw [hb] at h ⊢
      exact ih h
    · rw [hf] at h ⊢
      exact h

/-- What comes before a fault can be decoded, unless it is a character that had been begun. -/
inductive Preceded (fault : Fault) (offset : Nat) (within : Option Begun) (bytes : List UInt8) : Prop
  | begun (inside : within.isSome) (place : fault.offset = offset - begunLength within)
  | decoded (n : Nat) (before : List Char) (place : fault.offset = offset + n)
      (decodes : decodeFrom offset within (bytes.take n) = .ok before)

theorem preceded_here (h : fault.offset = offset - begunLength within) :
    Preceded fault offset within bytes := by
  cases within with
  | none => exact .decoded 0 [] h rfl
  | some begun => exact .begun rfl h

theorem preceded_of_error (h : decodeFrom offset within bytes = .error fault) :
    Preceded fault offset within bytes := by
  induction bytes generalizing offset within with
  | nil =>
    cases within with
    | none => simp [decodeFrom] at h
    | some begun =>
      obtain rfl := Except.error.inj h
      exact preceded_here rfl
  | cons b rest ih =>
    rcases decodeFrom_cons_cases within b with ⟨c, hc⟩ | ⟨begun, hlen, hb⟩ | ⟨reason, shown, -, hf⟩
    · rw [hc] at h
      rcases ih (map_eq_error_iff.mp h) with ⟨inside, -⟩ | ⟨n, before, place, decodes⟩
      · simp at inside
      · refine .decoded (n + 1) (c :: before) (by omega) ?_
        rw [List.take_succ_cons, hc, decodes]
        rfl
    · rw [hb] at h
      rcases ih h with ⟨-, place⟩ | ⟨n, before, place, decodes⟩
      · refine preceded_here ?_
        have : begunLength (some begun) = begun.bytes.length := rfl
        omega
      · refine .decoded (n + 1) before (by omega) ?_
        rw [List.take_succ_cons, hb, decodes]
    · rw [hf] at h
      exact preceded_here (by rw [← Except.error.inj h])

/-- A chunk can be decoded up to what is held back of it, or it is at fault in itself. -/
theorem decode_take_heldFrom (bytes : List UInt8) :
    (∃ chars, decode (bytes.take (heldFrom bytes)) = .ok chars) ∨
    ∃ fault, decode (bytes.take (heldFrom bytes)) = .error fault ∧ fault.reason ≠ .cutOff := by
  have hwhole : ∀ fault, decode bytes = .error fault →
      ∃ chars, decode (bytes.take fault.offset) = .ok chars := by
    intro fault h
    rcases preceded_of_error h with ⟨inside, -⟩ | ⟨n, before, place, decodes⟩
    · simp at inside
    · obtain rfl : n = fault.offset := by omega
      exact ⟨before, decodes⟩
  unfold heldFrom
  cases hd : decode bytes with
  | ok chars => exact .inl ⟨chars, by simpa using hd⟩
  | error fault =>
    obtain ⟨reason, offset, shown⟩ := fault
    cases reason with
    | cutOff => exact .inl (hwhole _ hd)
    | badStart => exact .inr ⟨_, by simpa using hd, by simp⟩
    | badContinuation =>
      simp only
      split
      · exact .inl (hwhole _ hd)
      · exact .inr ⟨_, by simpa using hd, by simp⟩

theorem decode_append (h : decode bytes = .ok chars) : decode (bytes ++ more) =
    ((decode more).mapError (·.shift bytes.length)).map (chars ++ ·) := by
  rw [decode, decodeFrom_append h, Nat.add_comm, decodeFrom_shift _ (Nat.zero_le _)]
  rfl

theorem length_le_of_decodeFrom (h : decodeFrom offset within bytes = .ok chars) :
    chars.length ≤ bytes.length := by
  induction bytes generalizing offset within chars with
  | nil =>
    cases within with
    | none => simp [← Except.ok.inj h]
    | some begun => simp [decodeFrom] at h
  | cons b rest ih =>
    rcases decodeFrom_cons_cases within b with ⟨c, hc⟩ | ⟨begun, -, hb⟩ | ⟨reason, shown, -, hf⟩
    · rw [hc] at h
      obtain ⟨later, hrest, rfl⟩ := map_eq_ok_iff.mp h
      exact Nat.succ_le_succ (ih hrest)
    · rw [hb] at h
      exact Nat.le_succ_of_le (ih h)
    · simp [hf] at h

end Utf8

namespace Stream

open Utf8

variable {bytes taken : List UInt8} {progress : Progress}

/-- What has been read of some bytes: the text of those that have been taken. -/
structure Progress.Of (progress : Progress) (bytes taken : List UInt8) : Prop where
  split : bytes = taken ++ (progress.held ++ progress.rest)
  decodes : decode taken = .ok progress.text
  parts : progress.parts * partLength ≤ progress.text.length

inductive Outcome (bytes : List UInt8) : Except StreamFault (List Char) → Prop
  | whole {chars : List Char} (decodes : decode bytes = .ok chars) :
      Outcome bytes (.ok (unifyLineEnds chars))
  | broken {stop : StreamFault} {taken : List UInt8} {text : List Char} (start : taken <+: bytes)
      (decodes : decode taken = .ok text)
      (fault : decode bytes = .error (stop.fault.shift taken.length))
      (before : stop.before <+: unifyLineEnds text) : Outcome bytes (.error stop)

def Enough (bound : Nat) (progress : Progress) : Prop :=
  3 * progress.rest.length + 2 * (progress.text.length + progress.held.length) +
    (if progress.rest.isEmpty then 1 else 2) * leastChunk ≤ leastChunk * (bound + progress.parts)

theorem Progress.ready_le (progress : Progress) : progress.ready ≤ progress.text.length :=
  Nat.le_trans (Nat.sub_le _ _) (length_unifyLineEnds_le _)

theorem Progress.Of.broken (h : progress.Of bytes taken) {fault : Fault}
    (hf : decode (progress.held ++ progress.rest) = .error fault) :
    Outcome bytes (.error (progress.fail fault)) := by
  refine .broken (h.split ▸ List.prefix_append _ _) h.decodes ?_ (List.take_prefix _ _)
  rw [h.split, decode_append h.decodes, hf]
  rfl

theorem Enough.pos (h : progress.Of bytes taken) (hb : Enough bound progress) : 0 < bound := by
  have hparts := h.parts
  unfold Enough at hb
  simp only [leastChunk, partLength] at hb hparts
  split at hb <;> omega

theorem Progress.Of.chunk {size place : Nat} {more : List Char} (h : progress.Of bytes taken)
    (hd : decode ((progress.held ++ progress.rest.take size).take place) = .ok more)
    (hsize : leastChunk ≤ size) (hmore : progress.rest.isEmpty = false) {bound : Nat}
    (hb : Enough (bound + 1) progress) {lastBytes lastChars : Nat} :
    let next : Progress :=
      { progress with
        text := progress.text ++ more
        held := (progress.held ++ progress.rest.take size).drop place
        rest := progress.rest.drop size
        lastBytes
        lastChars }
    next.Of bytes (taken ++ (progress.held ++ progress.rest.take size).take place) ∧
      Enough bound next := by
  refine ⟨⟨?_, ?_, ?_⟩, ?_⟩
  · rw [List.append_assoc, ← List.append_assoc (List.take _ _), List.take_append_drop,
      List.append_assoc, List.take_append_drop, h.split]
  · rw [decode_append h.decodes, hd]
    rfl
  · exact Nat.le_trans h.parts (by simp)
  · have hlen := length_le_of_decodeFrom hd
    unfold Enough at hb ⊢
    simp only [List.length_take, List.length_append, List.length_drop, hmore] at hlen hb ⊢
    simp only [leastChunk, Bool.false_eq_true, if_false] at hsize hb ⊢
    split
    next => omega
    next hleft =>
      have hlong : size < progress.rest.length := by simpa using hleft
      omega

theorem decode_of_chunk_error {held rest : List UInt8} {size : Nat} {fault : Fault}
    (h : decode ((held ++ rest.take size).take (heldFrom (held ++ rest.take size))) = .error fault) :
    decode (held ++ rest) = .error fault := by
  have hreason : fault.reason ≠ .cutOff := by
    rcases decode_take_heldFrom (held ++ rest.take size) with ⟨chars, hc⟩ | ⟨other, ho, hr⟩
    · simp [hc] at h
    · exact Except.error.inj (ho.symm.trans h) ▸ hr
  have hsplit : held ++ rest = (held ++ rest.take size).take (heldFrom (held ++ rest.take size)) ++
      ((held ++ rest.take size).drop (heldFrom (held ++ rest.take size)) ++ rest.drop size) := by
    rw [← List.append_assoc, List.take_append_drop, List.append_assoc, List.take_append_drop]
  rw [hsplit]
  exact decodeFrom_append_of_error h hreason

theorem readFrom_outcome (bound : Nat) (h : progress.Of bytes taken) (hb : Enough bound progress) :
    Outcome bytes (readFrom bound progress) := by
  induction bound generalizing progress taken with
  | zero => exact absurd (hb.pos h) (Nat.lt_irrefl 0)
  | succ bound ih =>
    rw [readFrom]
    split
    next hready =>
      refine ih ⟨h.split, h.decodes, Nat.le_trans hready progress.ready_le⟩ ?_
      rw [Enough, Nat.add_right_comm bound] at hb
      exact hb
    next =>
      split
      next hempty =>
        have hrest : progress.rest = [] := by simpa using hempty
        cases hd : decode progress.held with
        | error fault => exact h.broken (by rw [hrest, List.append_nil, hd])
        | ok last =>
          refine .whole ?_
          rw [h.split, hrest, List.append_nil, decode_append h.decodes, hd]
          rfl
      next hmore =>
        dsimp only
        split
        next fault hd => exact h.broken (decode_of_chunk_error hd)
        next more hd =>
          obtain ⟨hof, henough⟩ := h.chunk hd (Nat.le_max_left _ _) (by simpa using hmore) hb
          exact ih hof henough

/-- Reading in pieces comes to the text of the bytes, or to the fault that they have. -/
theorem read_outcome (bytes : List UInt8) : Outcome bytes (read bytes) := by
  have hstart : ({ rest := bytes } : Progress).Of bytes [] := ⟨rfl, rfl, by simp⟩
  refine readFrom_outcome _ hstart ?_
  simp only [Enough, leastChunk, List.length_nil]
  split <;> omega

theorem read_eq_ok_iff {text : List Char} :
    read bytes = .ok text ↔ ∃ chars, decode bytes = .ok chars ∧ text = unifyLineEnds chars := by
  have hread := read_outcome bytes
  generalize read bytes = outcome at hread ⊢
  cases hread with
  | whole decodes => simp [decodes, eq_comm]
  | broken _ _ fault _ => simp [fault]

end Stream

end QueryRegistry
