import MuxConsole.Frames

/-!
# Characters survive their encoding

The bytes of a character take the machine through it and leave it between two
characters, so what has been encoded is read back as it was.
-/

namespace MuxConsole.Utf8

/-! ## The machine by the values of bytes -/

theorem toNat_byte {n : Nat} (h : n < 256) : (UInt8.ofNat n).toNat = n := by
  rw [UInt8.toNat_ofNat', Nat.mod_eq_of_lt h]

theorem start_eq (b : UInt8) :
    start b =
      if b.toNat < 0x80 then .char (Char.ofNat b.toNat)
      else if b.toNat < 0xC2 then .bad
      else if b.toNat < 0xE0 then .begun ⟨1, 0x80, 0xBF, b.toNat - 0xC0, 1⟩
      else if b.toNat = 0xE0 then .begun ⟨2, 0xA0, 0xBF, 0, 1⟩
      else if b.toNat = 0xED then .begun ⟨2, 0x80, 0x9F, 0xD, 1⟩
      else if b.toNat < 0xF0 then .begun ⟨2, 0x80, 0xBF, b.toNat - 0xE0, 1⟩
      else if b.toNat = 0xF0 then .begun ⟨3, 0x90, 0xBF, 0, 1⟩
      else if b.toNat < 0xF4 then .begun ⟨3, 0x80, 0xBF, b.toNat - 0xF0, 1⟩
      else if b.toNat = 0xF4 then .begun ⟨3, 0x80, 0x8F, 4, 1⟩
      else .bad := by
  simp only [start, UInt8.lt_iff_toNat_lt, ← UInt8.toNat_inj]
  rfl

theorem Begun.next_eq (state : Begun) {b : UInt8} (low : state.low.toNat ≤ b.toNat)
    (high : b.toNat ≤ state.high.toNat) :
    state.next b =
      if state.owed ≤ 1 then .char (Char.ofNat (state.bits * 64 + (b.toNat - 0x80)))
      else .begun ⟨state.owed - 1, 0x80, 0xBF, state.bits * 64 + (b.toNat - 0x80),
        state.read + 1⟩ := by
  have inRange : state.low ≤ b ∧ b ≤ state.high :=
    ⟨UInt8.le_iff_toNat_le.mpr low, UInt8.le_iff_toNat_le.mpr high⟩
  rw [next, if_pos inRange]

/-! ## First bytes -/

variable {v : Nat}

theorem start_two (low : 0x80 ≤ v) (high : v < 0x800) :
    start (UInt8.ofNat (v / 64 % 32 + 192)) = .begun ⟨1, 0x80, 0xBF, v / 64, 1⟩ := by
  have bits : v / 64 % 32 = v / 64 := by omega
  rw [start_eq, toNat_byte (by omega), bits]
  grind

theorem start_three (low : 0x800 ≤ v) (high : v < 0x10000)
    (valid : v < 0xD800 ∨ 0xDFFF < v) :
    ∃ least greatest : UInt8,
      start (UInt8.ofNat (v / 4096 % 16 + 224)) = .begun ⟨2, least, greatest, v / 4096, 1⟩ ∧
        least.toNat ≤ v / 64 % 64 + 128 ∧ v / 64 % 64 + 128 ≤ greatest.toNat := by
  have bits : v / 4096 % 16 = v / 4096 := by omega
  rw [start_eq, toNat_byte (by omega), bits]
  by_cases first : v / 4096 = 0
  · refine ⟨0xA0, 0xBF, by grind, ?_, ?_⟩
    · change 160 ≤ _
      omega
    · change _ ≤ 191
      omega
  · by_cases surrogates : v / 4096 = 0xD
    · refine ⟨0x80, 0x9F, by grind, ?_, ?_⟩
      · change 128 ≤ _
        omega
      · change _ ≤ 159
        omega
    · refine ⟨0x80, 0xBF, by grind, ?_, ?_⟩
      · change 128 ≤ _
        omega
      · change _ ≤ 191
        omega

theorem start_four (low : 0x10000 ≤ v) (high : v < 0x110000) :
    ∃ least greatest : UInt8,
      start (UInt8.ofNat (v / 262144 % 8 + 240)) =
          .begun ⟨3, least, greatest, v / 262144, 1⟩ ∧
        least.toNat ≤ v / 4096 % 64 + 128 ∧ v / 4096 % 64 + 128 ≤ greatest.toNat := by
  have bits : v / 262144 % 8 = v / 262144 := by omega
  rw [start_eq, toNat_byte (by omega), bits]
  by_cases first : v / 262144 = 0
  · refine ⟨0x90, 0xBF, by grind, ?_, ?_⟩
    · change 144 ≤ _
      omega
    · change _ ≤ 191
      omega
  · by_cases last : v / 262144 = 4
    · refine ⟨0x80, 0x8F, by grind, ?_, ?_⟩
      · change 128 ≤ _
        omega
      · change _ ≤ 143
        omega
    · refine ⟨0x80, 0xBF, by grind, ?_, ?_⟩
      · change 128 ≤ _
        omega
      · change _ ≤ 191
        omega

/-! ## Further bytes -/

def tail (bits : Nat) : UInt8 := UInt8.ofNat (bits % 64 + 128)

theorem toNat_tail (bits : Nat) : (tail bits).toNat = bits % 64 + 128 :=
  toNat_byte (by omega)

theorem least_tail (bits : Nat) : (0x80 : UInt8).toNat ≤ bits % 64 + 128 :=
  Nat.le_add_left 128 _

theorem greatest_tail (bits : Nat) : bits % 64 + 128 ≤ (0xBF : UInt8).toNat := by
  change _ ≤ 191
  omega

variable {index sofar read bits : Nat} {least greatest : UInt8} {rest : Bytes}

theorem decodeFrom_tail {owed : Nat} (low : least.toNat ≤ bits % 64 + 128)
    (high : bits % 64 + 128 ≤ greatest.toNat) :
    decodeFrom index (some ⟨owed + 2, least, greatest, sofar, read⟩) (tail bits :: rest) =
      decodeFrom index (some ⟨owed + 1, 0x80, 0xBF, sofar * 64 + bits % 64, read + 1⟩) rest := by
  rw [← toNat_tail] at low high
  have hnext := Begun.next_eq ⟨owed + 2, least, greatest, sofar, read⟩ low high
  rw [if_neg (by simp), toNat_tail, Nat.add_sub_cancel] at hnext
  rw [decodeFrom, hnext]
  rfl

theorem decodeFrom_last {c : Char} (low : least.toNat ≤ bits % 64 + 128)
    (high : bits % 64 + 128 ≤ greatest.toNat) (complete : sofar * 64 + bits % 64 = c.toNat) :
    decodeFrom index (some ⟨1, least, greatest, sofar, read⟩) (tail bits :: rest) =
      (decodeFrom (index + read + 1) none rest).map (c :: ·) := by
  rw [← toNat_tail] at low high
  have hnext := Begun.next_eq ⟨1, least, greatest, sofar, read⟩ low high
  rw [if_pos (Nat.le_refl 1), toNat_tail, Nat.add_sub_cancel] at hnext
  dsimp only at hnext
  rw [complete, Char.ofNat_toNat] at hnext
  rw [decodeFrom, hnext]

/-! ## Characters -/

theorem valid_char (c : Char) : c.toNat < 0xD800 ∨ 0xDFFF < c.toNat ∧ c.toNat < 0x110000 :=
  c.valid

theorem utf8EncodeChar_eq (c : Char) :
    String.utf8EncodeChar c =
      if c.toNat ≤ 0x7F then [UInt8.ofNat c.toNat]
      else if c.toNat ≤ 0x7FF then [UInt8.ofNat (c.toNat / 64 % 32 + 192), tail c.toNat]
      else if c.toNat ≤ 0xFFFF then
        [UInt8.ofNat (c.toNat / 4096 % 16 + 224), tail (c.toNat / 64), tail c.toNat]
      else
        [UInt8.ofNat (c.toNat / 262144 % 8 + 240), tail (c.toNat / 4096),
          tail (c.toNat / 64), tail c.toNat] := rfl

theorem toNat_of_mem_utf8EncodeChar {c : Char} {b : UInt8} (h : b ∈ String.utf8EncodeChar c) :
    b.toNat = c.toNat ∨ 0x80 ≤ b.toNat := by
  have further (bits : Nat) : 0x80 ≤ (tail bits).toNat := by
    rw [toNat_tail]
    exact Nat.le_add_left 0x80 _
  have first {n : Nat} (low : 0x80 ≤ n) (high : n < 256) : 0x80 ≤ (UInt8.ofNat n).toNat := by
    rwa [toNat_byte high]
  rw [utf8EncodeChar_eq] at h
  split at h
  · rw [List.mem_singleton.mp h, toNat_byte (by omega)]
    exact .inl rfl
  · right
    split at h
    · simp only [List.mem_cons, List.not_mem_nil, or_false] at h
      rcases h with rfl | rfl
      · exact first (by omega) (by omega)
      · exact further _
    · split at h
      · simp only [List.mem_cons, List.not_mem_nil, or_false] at h
        rcases h with rfl | rfl | rfl
        · exact first (by omega) (by omega)
        · exact further _
        · exact further _
      · simp only [List.mem_cons, List.not_mem_nil, or_false] at h
        rcases h with rfl | rfl | rfl | rfl
        · exact first (by omega) (by omega)
        · exact further _
        · exact further _
        · exact further _

theorem decodeFrom_char (c : Char) (index : Nat) (rest : Bytes) :
    ∃ next, decodeFrom index none (String.utf8EncodeChar c ++ rest) =
      (decodeFrom next none rest).map (c :: ·) := by
  have valid := valid_char c
  rw [utf8EncodeChar_eq]
  split
  · rename_i one
    have hstart : start (UInt8.ofNat c.toNat) = .char c := by
      rw [start_eq, toNat_byte (by omega), if_pos (by omega), Char.ofNat_toNat]
    refine ⟨index + 1, ?_⟩
    rw [List.singleton_append, decodeFrom, hstart]
  · split
    · rename_i two
      refine ⟨index + 1 + 1, ?_⟩
      rw [List.cons_append, List.singleton_append, decodeFrom, start_two (by omega) (by omega)]
      exact decodeFrom_last (least_tail _) (greatest_tail _) (by omega)
    · split
      · rename_i three
        obtain ⟨least, greatest, hstart, low, high⟩ :=
          start_three (v := c.toNat) (by omega) (by omega) (by omega)
        refine ⟨index + 2 + 1, ?_⟩
        rw [List.cons_append, List.cons_append, List.singleton_append, decodeFrom, hstart]
        dsimp only
        rw [decodeFrom_tail low high]
        exact decodeFrom_last (least_tail _) (greatest_tail _) (by omega)
      · obtain ⟨least, greatest, hstart, low, high⟩ :=
          start_four (v := c.toNat) (by omega) (by omega)
        refine ⟨index + 3 + 1, ?_⟩
        rw [List.cons_append, List.cons_append, List.cons_append, List.singleton_append,
          decodeFrom, hstart]
        dsimp only
        rw [decodeFrom_tail low high, decodeFrom_tail (least_tail _) (greatest_tail _)]
        exact decodeFrom_last (least_tail _) (greatest_tail _) (by omega)

/-! ## Texts -/

theorem decodeFrom_encodeChars (text : List Char) (index : Nat) :
    decodeFrom index none (encodeChars text) = .ok text := by
  induction text generalizing index with
  | nil => rfl
  | cons c text ih =>
      obtain ⟨next, hchar⟩ := decodeFrom_char c index (encodeChars text)
      rw [encodeChars, List.flatMap_cons, ← encodeChars, hchar, ih]
      rfl

theorem decode_encodeChars (text : List Char) :
    decode (encodeChars text) = .ok (String.ofList text) := by
  rw [decode, decodeFrom_encodeChars]
  rfl

theorem decode_encode (text : String) : decode (encode text) = .ok text := by
  rw [encode, decode_encodeChars, String.ofList_toList]

@[simp] theorem encode_inj {text text' : String} : encode text = encode text' ↔ text = text' := by
  refine ⟨fun same => ?_, congrArg encode⟩
  have decoded := congrArg decode same
  rw [decode_encode, decode_encode] at decoded
  exact Except.ok.inj decoded

theorem mapM_ofTexts {ε : Type} {read : Bytes → Except ε String}
    (h : ∀ text, read (encode text) = .ok text) (texts : List String) :
    (Frames.ofTexts texts).mapM read = .ok texts := by
  induction texts with
  | nil => rfl
  | cons text rest ih =>
      change (encode text :: Frames.ofTexts rest).mapM read = _
      rw [List.mapM_cons, h, ih]
      rfl

/-! ## Lenient reading -/

theorem lenientFrom_of_decodeFrom {bytes : Bytes} {state : Option Begun} {index : Nat}
    {text : List Char} (h : decodeFrom index state bytes = .ok text) :
    lenientFrom state bytes = text := by
  induction bytes generalizing state index text with
  | nil =>
      cases state with
      | none =>
          cases h
          rfl
      | some state => cases h
  | cons b rest ih =>
      have map {next : Nat} {c : Char}
          (read : (decodeFrom next none rest).map (c :: ·) = .ok text) :
          c :: lenientFrom none rest = text := by
        cases more : decodeFrom next none rest with
        | error fault =>
            rw [more] at read
            cases read
        | ok others =>
            rw [more] at read
            cases read
            rw [ih more]
      cases state with
      | none =>
          rw [decodeFrom] at h
          rw [lenientFrom]
          cases hstart : start b with
          | char c => exact map (by simpa [hstart] using h)
          | begun state => exact ih (by simpa [hstart] using h)
          | bad => simp [hstart] at h
      | some state =>
          rw [decodeFrom] at h
          rw [lenientFrom]
          cases hnext : state.next b with
          | char c => exact map (by simpa [hnext] using h)
          | begun state => exact ih (by simpa [hnext] using h)
          | bad => simp [hnext] at h

theorem lenient_encode (text : String) : lenient (encode text) = text := by
  have read : decodeFrom 0 none (encode text) = .ok text.toList :=
    decodeFrom_encodeChars text.toList 0
  rw [lenient, lenientFrom_of_decodeFrom read, String.ofList_toList]

end MuxConsole.Utf8
