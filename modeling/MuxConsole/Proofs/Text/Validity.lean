import Mathlib.Algebra.Group.Nat.Defs
import MuxConsole.Proofs.Text.Utf8

/-!
# Only encoded texts can be read

The machine keeps to what it has read: a character begun can only be completed to one
whose encoding begins with those bytes.  So whatever is read without a fault is the
encoding of the text that it is read as.
-/

namespace MuxConsole.Utf8

def tails : (count : Nat) → (v : Nat) → Bytes
  | 0, _ => []
  | count + 1, v => tail (v / 64 ^ count) :: tails count v

/-- The state after these bytes: every value that has the bits read so far, and goes on
within the range, is one of a character whose encoding begins with them. -/
structure Begun.Follows (state : Begun) (bytes : Bytes) : Prop where
  owed : 1 ≤ state.owed
  low : 0x80 ≤ state.low.toNat
  high : state.high.toNat ≤ 0xBF
  completes (v : Nat) (bits : v / 64 ^ state.owed = state.bits)
    (least : state.low.toNat ≤ v / 64 ^ (state.owed - 1) % 64 + 128)
    (greatest : v / 64 ^ (state.owed - 1) % 64 + 128 ≤ state.high.toNat) :
    String.utf8EncodeChar (Char.ofNat v) = bytes ++ tails state.owed v

/-! ## First bytes -/

theorem toNat_ofNat_of_valid {v : Nat} (valid : v < 0xD800 ∨ 0xDFFF < v ∧ v < 0x110000) :
    (Char.ofNat v).toNat = v := by
  have isValid : v.isValidChar := valid
  rw [Char.ofNat, dif_pos isValid]
  rfl

theorem ofNat_of_toNat {b : UInt8} {n : Nat} (h : n = b.toNat) : UInt8.ofNat n = b := by
  rw [h, UInt8.ofNat_toNat]

variable {b : UInt8} {v bits : Nat} {least greatest : UInt8}

theorem encode_one (h : b.toNat < 0x80) :
    String.utf8EncodeChar (Char.ofNat b.toNat) = [b] := by
  rw [utf8EncodeChar_eq, toNat_ofNat_of_valid (by omega), if_pos (by omega), UInt8.ofNat_toNat]

theorem start_char {c : Char} (h : start b = .char c) :
    b.toNat < 0x80 ∧ c = Char.ofNat b.toNat := by
  rw [start] at h
  split at h
  · rename_i small
    cases h
    exact ⟨UInt8.lt_iff_toNat_lt.mp small, rfl⟩
  · repeat' split at h
    all_goals cases h

theorem follows_two (lead : bits + 0xC0 = b.toNat) (low : 0xC2 ≤ b.toNat)
    (high : b.toNat < 0xE0) : Begun.Follows ⟨1, 0x80, 0xBF, bits, 1⟩ [b] where
  owed := Nat.le_refl 1
  low := Nat.le_refl _
  high := Nat.le_refl _
  completes := by
    intro v hbits _ _
    change v / 64 = bits at hbits
    rw [utf8EncodeChar_eq, toNat_ofNat_of_valid (by omega), if_neg (by omega),
      if_pos (by omega), ofNat_of_toNat (b := b) (by omega)]
    simp [tails]

theorem follows_three (lead : bits + 0xE0 = b.toNat) (small : bits < 16)
    (low : 0x80 ≤ least.toNat) (high : greatest.toNat ≤ 0xBF)
    (noShorter : bits = 0 → 0xA0 ≤ least.toNat)
    (noSurrogate : bits = 0xD → greatest.toNat ≤ 0x9F) :
    Begun.Follows ⟨2, least, greatest, bits, 1⟩ [b] where
  owed := by simp
  low := low
  high := high
  completes := by
    intro v hbits hleast hgreatest
    change v / 4096 = bits at hbits
    change least.toNat ≤ v / 64 % 64 + 128 at hleast
    change v / 64 % 64 + 128 ≤ greatest.toNat at hgreatest
    rw [utf8EncodeChar_eq, toNat_ofNat_of_valid (by omega), if_neg (by omega),
      if_neg (by omega), if_pos (by omega), ofNat_of_toNat (b := b) (by omega)]
    simp [tails]

theorem follows_four (lead : bits + 0xF0 = b.toNat) (small : bits < 5)
    (low : 0x80 ≤ least.toNat) (high : greatest.toNat ≤ 0xBF)
    (noShorter : bits = 0 → 0x90 ≤ least.toNat) (noFurther : bits = 4 → greatest.toNat ≤ 0x8F) :
    Begun.Follows ⟨3, least, greatest, bits, 1⟩ [b] where
  owed := by simp
  low := low
  high := high
  completes := by
    intro v hbits hleast hgreatest
    change v / 262144 = bits at hbits
    change least.toNat ≤ v / 4096 % 64 + 128 at hleast
    change v / 4096 % 64 + 128 ≤ greatest.toNat at hgreatest
    rw [utf8EncodeChar_eq, toNat_ofNat_of_valid (by omega), if_neg (by omega),
      if_neg (by omega), if_neg (by omega), ofNat_of_toNat (b := b) (by omega)]
    simp [tails]

theorem follows_start {state : Begun} (h : start b = .begun state) : state.Follows [b] := by
  rw [start_eq] at h
  split at h
  · cases h
  split at h
  · cases h
  split at h
  · cases h
    exact follows_two (by omega) (by omega) (by omega)
  split at h
  · cases h
    exact follows_three (by omega) (by omega) (by decide) (by decide) (by decide) (by omega)
  split at h
  · cases h
    exact follows_three (by omega) (by omega) (by decide) (by decide) (by omega) (by decide)
  split at h
  · cases h
    exact follows_three (by omega) (by omega) (by decide) (by decide) (by omega) (by omega)
  split at h
  · cases h
    exact follows_four (by omega) (by omega) (by decide) (by decide) (by decide) (by omega)
  split at h
  · cases h
    exact follows_four (by omega) (by omega) (by decide) (by decide) (by omega) (by omega)
  split at h
  · cases h
    exact follows_four (by omega) (by omega) (by decide) (by decide) (by omega) (by decide)
  · cases h

/-! ## Further bytes -/

theorem Begun.Follows.next {state : Begun} {bytes : Bytes} (h : state.Follows bytes)
    (low : state.low.toNat ≤ b.toNat) (high : b.toNat ≤ state.high.toNat) :
    (state.owed ≤ 1 →
      String.utf8EncodeChar (Char.ofNat (state.bits * 64 + (b.toNat - 0x80))) = bytes ++ [b]) ∧
    (¬ state.owed ≤ 1 →
      Begun.Follows ⟨state.owed - 1, 0x80, 0xBF, state.bits * 64 + (b.toNat - 0x80),
        state.read + 1⟩ (bytes ++ [b])) := by
  obtain ⟨owed, least, greatest, bits, read⟩ := state
  obtain ⟨howed, hleast, hgreatest, completes⟩ := h
  dsimp only at *
  obtain ⟨more, rfl⟩ : ∃ more, owed = more + 1 := ⟨owed - 1, by omega⟩
  rw [Nat.add_sub_cancel] at *
  -- A value with these bits and this byte has the bits that have been read before.
  have earlier {v : Nat} (hbits : v / 64 ^ more = bits * 64 + (b.toNat - 0x80)) :
      String.utf8EncodeChar (Char.ofNat v) = bytes ++ b :: tails more v := by
    have before : v / 64 ^ (more + 1) = bits := by
      rw [Nat.pow_succ, ← Nat.div_div_eq_div_mul, hbits]
      omega
    have here : v / 64 ^ more % 64 + 128 = b.toNat := by
      rw [hbits]
      omega
    rw [completes v before (here ▸ low) (here ▸ high), tails, tail, here, UInt8.ofNat_toNat]
  constructor
  · intro last
    obtain rfl : more = 0 := by omega
    exact earlier (by rw [Nat.pow_zero, Nat.div_one])
  · intro further
    refine ⟨show 1 ≤ more by omega, Nat.le_refl _, Nat.le_refl _, fun v hbits _ _ => ?_⟩
    rw [earlier hbits, List.append_assoc, List.singleton_append]

theorem Begun.Follows.next_char {state : Begun} {bytes : Bytes} {c : Char}
    (h : state.Follows bytes) (hnext : state.next b = .char c) :
    String.utf8EncodeChar c = bytes ++ [b] := by
  rw [Begun.next] at hnext
  split at hnext
  · rename_i within
    have goesOn := h.next (UInt8.le_iff_toNat_le.mp within.1) (UInt8.le_iff_toNat_le.mp within.2)
    dsimp only at hnext
    split at hnext
    · rename_i last
      rw [← Step.char.inj hnext]
      exact goesOn.1 last
    · cases hnext
  · cases hnext

theorem Begun.Follows.next_begun {state after : Begun} {bytes : Bytes}
    (h : state.Follows bytes) (hnext : state.next b = .begun after) :
    after.Follows (bytes ++ [b]) := by
  rw [Begun.next] at hnext
  split at hnext
  · rename_i within
    have goesOn := h.next (UInt8.le_iff_toNat_le.mp within.1) (UInt8.le_iff_toNat_le.mp within.2)
    dsimp only at hnext
    split at hnext
    · cases hnext
    · rename_i further
      cases hnext
      exact goesOn.2 further
  · cases hnext

/-! ## Texts -/

theorem eq_encodeChars_of_decodeFrom {bytes read : Bytes} {state : Option Begun} {index : Nat}
    {text : List Char} (h : decodeFrom index state bytes = .ok text)
    (follows : state.elim (read = []) fun state => state.Follows read) :
    read ++ bytes = encodeChars text := by
  induction bytes generalizing state index text read with
  | nil =>
      cases state with
      | none =>
          cases h
          rw [show read = [] from follows]
          rfl
      | some state => cases h
  | cons b rest ih =>
      have char {next : Nat} {c : Char} (encodes : String.utf8EncodeChar c = read ++ [b])
          (more : (decodeFrom next none rest).map (c :: ·) = .ok text) :
          read ++ b :: rest = encodeChars text := by
        cases decoded : decodeFrom next none rest with
        | error fault =>
            rw [decoded] at more
            cases more
        | ok others =>
            rw [decoded] at more
            cases more
            have later : [] ++ rest = encodeChars others := ih decoded rfl
            rw [encodeChars, List.flatMap_cons, ← encodeChars, ← later, encodes]
            simp
      have begun {state : Begun} (follows : state.Follows (read ++ [b]))
          (more : decodeFrom index (some state) rest = .ok text) :
          read ++ b :: rest = encodeChars text := by
        rw [← ih more follows]
        simp
      cases state with
      | none =>
          obtain rfl : read = [] := follows
          rw [decodeFrom] at h
          cases hstart : start b with
          | char c =>
              obtain ⟨small, rfl⟩ := start_char hstart
              exact char (encode_one small) (by simpa [hstart] using h)
          | begun state => exact begun (follows_start hstart) (by simpa [hstart] using h)
          | bad => simp [hstart] at h
      | some state =>
          rw [decodeFrom] at h
          cases hnext : state.next b with
          | char c =>
              exact char (follows.next_char hnext) (by simpa [hnext] using h)
          | begun state => exact begun (follows.next_begun hnext) (by simpa [hnext] using h)
          | bad => simp [hnext] at h

theorem decode_eq_ok_iff {bytes : Bytes} {text : String} :
    decode bytes = .ok text ↔ bytes = encode text := by
  constructor
  · intro h
    rw [decode] at h
    cases decoded : decodeFrom 0 none bytes with
    | error fault =>
        rw [decoded] at h
        cases h
    | ok chars =>
        rw [decoded] at h
        cases h
        rw [encode, String.toList_ofList, ← eq_encodeChars_of_decodeFrom decoded rfl,
          List.nil_append]
  · rintro rfl
    exact decode_encode text

end MuxConsole.Utf8
