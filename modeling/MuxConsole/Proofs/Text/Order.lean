import MuxConsole.Proofs.Text.Utf8

/-!
# The order of texts is that of their bytes

The first byte of a character grows with the number of its bytes, and within one number
the bits of a character stand in its bytes from the highest on.  So of two texts the one
that comes first by its characters comes first by its bytes.
-/

namespace MuxConsole.Utf8

theorem longest_lead (c : Char) :
    (c.toNat / 262144 % 8 + 240) % 256 = c.toNat / 262144 + 240 := by
  have valid := valid_char c
  omega

theorem utf8EncodeChar_lt {c d : Char} (h : c < d) (rest others : Bytes) :
    String.utf8EncodeChar c ++ rest < String.utf8EncodeChar d ++ others := by
  have less : c.toNat < d.toNat := h
  have middle (n : Nat) : n / 64 / 64 = n / 4096 := Nat.div_div_eq_div_mul n 64 64
  have upper (n : Nat) : n / 4096 / 64 = n / 262144 := Nat.div_div_eq_div_mul n 4096 64
  have validFirst := valid_char c
  have validSecond := valid_char d
  have middleFirst := middle c.toNat
  have middleSecond := middle d.toNat
  have upperFirst := upper c.toNat
  have upperSecond := upper d.toNat
  rw [utf8EncodeChar_eq, utf8EncodeChar_eq]
  -- One case for each two numbers of bytes.
  repeat' split
  all_goals
    simp only [List.cons_append, List.nil_append, List.cons_lt_cons_iff, UInt8.lt_iff_toNat_lt,
      ← UInt8.toNat_inj, toNat_tail, UInt8.toNat_ofNat', Nat.reducePow, longest_lead]
    omega

theorem encodeChars_lt {text other : List Char} (h : text < other) :
    encodeChars text < encodeChars other := by
  induction h with
  | @nil c text =>
      obtain ⟨b, more, hcons⟩ := List.exists_cons_of_ne_nil (String.utf8EncodeChar_ne_nil (c := c))
      simp only [encodeChars, List.flatMap_cons, List.flatMap_nil, hcons, List.cons_append]
      exact List.nil_lt_cons b _
  | cons _ ih => exact List.append_left_lt ih
  | rel first => exact utf8EncodeChar_lt first _ _

theorem encode_lt {text other : String} (h : text < other) : encode text < encode other :=
  encodeChars_lt h

end MuxConsole.Utf8
