import MuxConsole.Proofs.Json.Grammar
import MuxConsole.Proofs.Text.Utf8

/-!
# Texts are read as what they denote

A text is read from between its quotes: a character that is escaped from its
escape, any other from its own bytes, of which none is a quote, a backslash or a
control character.  A rendered text denotes the text that has been rendered.
-/

namespace MuxConsole.Json

/-! ## Reading on a long enough clock -/

/-- The bytes up to a closing quote are read with this result, whatever goes on after
the quote. -/
def Holds (bytes : Bytes) (result : Except Problem Bytes) : Prop :=
  ∀ rest clock : Bytes, bytes.length < clock.length →
    textBytes clock (bytes ++ Ascii.quote :: rest) = result.map (·, rest)

def isPlainByte (b : UInt8) : Bool := b ≠ Ascii.quote && b ≠ Ascii.backslash && Ascii.space ≤ b

namespace Holds

theorem nil : Holds [] (.ok []) := by
  intro rest clock long
  cases clock with
  | nil => cases long
  | cons _ clock => rfl

variable {bytes : Bytes} {result : Except Problem Bytes}

theorem plain {b : UInt8} (h : isPlainByte b = true) (holds : Holds bytes result) :
    Holds (b :: bytes) (result.map (b :: ·)) := by
  intro rest clock long
  cases clock with
  | nil => cases long
  | cons _ clock =>
      simp only [isPlainByte, Bool.and_eq_true, decide_eq_true_eq] at h
      obtain ⟨⟨noQuote, noBackslash⟩, noControl⟩ := h
      rw [List.cons_append, textBytes, if_neg noQuote, if_neg noBackslash,
        if_neg (UInt8.not_lt.mpr noControl), holds rest clock (Nat.lt_of_succ_lt_succ long)]
      cases result <;> rfl

theorem plains {plain : Bytes} (h : ∀ b ∈ plain, isPlainByte b = true)
    (holds : Holds bytes result) : Holds (plain ++ bytes) (result.map (plain ++ ·)) := by
  induction plain with
  | nil =>
      cases result <;> exact holds
  | cons b plain ih =>
      obtain ⟨first, others⟩ := List.forall_mem_cons.mp h
      have all := (ih others).plain first
      cases result <;> exact all

theorem escape (body : Bytes) {c : Char} (h : ∀ rest, escapeBody (body ++ rest) = .ok (c, rest))
    (holds : Holds bytes result) :
    Holds (Ascii.backslash :: (body ++ bytes)) (result.map (String.utf8EncodeChar c ++ ·)) := by
  intro rest clock long
  cases clock with
  | nil => cases long
  | cons _ clock =>
      have enough : bytes.length < clock.length := by
        simp at long
        omega
      have noQuote : ¬ Ascii.backslash = Ascii.quote := by decide
      rw [List.cons_append, List.append_assoc, textBytes, if_neg noQuote, if_pos rfl, h]
      change (textBytes clock (bytes ++ Ascii.quote :: rest) >>= _) = _
      rw [holds rest clock enough]
      cases result <;> rfl

theorem refused {body : Bytes} {problem : Problem}
    (h : ∀ rest, escapeBody (body ++ Ascii.quote :: rest) = .error problem) :
    Holds (Ascii.backslash :: body) (.error problem) := by
  intro rest clock long
  cases clock with
  | nil => cases long
  | cons _ clock =>
      have noQuote : ¬ Ascii.backslash = Ascii.quote := by decide
      rw [List.cons_append, textBytes, if_neg noQuote, if_pos rfl, h]
      rfl

end Holds

/-! ## Escapes -/

theorem escapeLetter_of_mem :
    ∀ entry ∈ escapeLetters, escapeLetter? entry.1 = some entry.2 := by
  decide

variable {digits rest : Bytes}

theorem hexUnit_digits {unit : Nat} (h : DenotesUnit digits unit) (rest : Bytes) :
    hexUnit (digits ++ rest) = .ok (unit, rest) := by
  obtain ⟨a, b, c, d, values, rfl⟩ := h
  obtain ⟨_, _, rfl, ha, values⟩ := List.map_eq_cons_iff.mp values
  obtain ⟨_, _, rfl, hb, values⟩ := List.map_eq_cons_iff.mp values
  obtain ⟨_, _, rfl, hc, values⟩ := List.map_eq_cons_iff.mp values
  obtain ⟨_, rfl, hd⟩ := List.map_eq_singleton_iff.mp values
  simp only [List.cons_append, List.nil_append, hexUnit, ha, hb, hc, hd]

theorem unicodeEscape_unit {c : Char} (h : DenotesUnit digits c.toNat) (rest : Bytes) :
    unicodeEscape (digits ++ rest) = .ok (c, rest) := by
  have valid := Utf8.valid_char c
  have noTrailing : ¬ IsTrailingSurrogate c.toNat := by omega
  have noLeading : ¬ IsLeadingSurrogate c.toNat := by omega
  simp only [unicodeEscape, hexUnit_digits h, Except.bind, bind, if_neg noTrailing,
    if_neg noLeading, Char.ofNat_toNat]
  rfl

theorem unicodeEscape_pair {c : Char} {leading trailing : Bytes} (beyond : 0x10000 ≤ c.toNat)
    (first : DenotesUnit leading (0xD800 + (c.toNat - 0x10000) / 0x400))
    (second : DenotesUnit trailing (0xDC00 + (c.toNat - 0x10000) % 0x400)) (rest : Bytes) :
    unicodeEscape (leading ++ (Ascii.backslash :: Ascii.lowerU :: (trailing ++ rest))) =
      .ok (c, rest) := by
  have valid := Utf8.valid_char c
  have noTrailing : ¬ IsTrailingSurrogate (0xD800 + (c.toNat - 0x10000) / 0x400) := by omega
  have isLeading : IsLeadingSurrogate (0xD800 + (c.toNat - 0x10000) / 0x400) := by omega
  have isTrailing : IsTrailingSurrogate (0xDC00 + (c.toNat - 0x10000) % 0x400) := by omega
  have joined : 0x10000 + (0xD800 + (c.toNat - 0x10000) / 0x400 - 0xD800) * 0x400 +
      (0xDC00 + (c.toNat - 0x10000) % 0x400 - 0xDC00) = c.toNat := by omega
  simp only [unicodeEscape, hexUnit_digits first, hexUnit_digits second, surrogateGoesOn,
    Except.bind, bind, if_neg noTrailing, if_pos isLeading, if_pos isTrailing, if_pos, joined,
    Char.ofNat_toNat]
  rfl

/-! ## Characters that stand for themselves -/

theorem isPlainByte_iff {b : UInt8} :
    isPlainByte b = true ↔ b.toNat ≠ 0x22 ∧ b.toNat ≠ 0x5C ∧ 0x20 ≤ b.toNat := by
  simp only [isPlainByte, ne_eq, Bool.and_eq_true, decide_eq_true_eq, and_assoc,
    UInt8.le_iff_toNat_le, ← UInt8.toNat_inj]
  exact Iff.rfl

theorem toNat_ne_of_ne {c d : Char} (h : c ≠ d) : c.toNat ≠ d.toNat := by
  intro same
  exact h (by rw [← Char.ofNat_toNat c, same, Char.ofNat_toNat])

theorem isPlainByte_of_mem {c : Char} (noQuote : c ≠ '"') (noBackslash : c ≠ '\\')
    (noControl : 0x20 ≤ c.toNat) {b : UInt8} (h : b ∈ String.utf8EncodeChar c) :
    isPlainByte b = true := by
  have hquote : c.toNat ≠ 0x22 := toNat_ne_of_ne noQuote
  have hbackslash : c.toNat ≠ 0x5C := toNat_ne_of_ne noBackslash
  rw [isPlainByte_iff]
  rcases Utf8.toNat_of_mem_utf8EncodeChar h with same | high
  · rw [same]
    exact ⟨hquote, hbackslash, noControl⟩
  · omega

/-! ## Texts -/

theorem holds_char {body bytes : Bytes} {c : Char} {result : Except Problem Bytes}
    (denotes : DenotesChar body c) (holds : Holds bytes result) :
    Holds (body ++ bytes) (result.map (String.utf8EncodeChar c ++ ·)) := by
  cases denotes with
  | plain noQuote noBackslash noControl =>
      exact holds.plains fun b => isPlainByte_of_mem noQuote noBackslash noControl
  | @letter l _ h =>
      refine holds.escape [l] fun rest => ?_
      rw [List.singleton_append, escapeBody, escapeLetter_of_mem _ h]
  | unit h =>
      exact holds.escape (Ascii.lowerU :: _) (unicodeEscape_unit h)
  | pair beyond first second =>
      have escape := unicodeEscape_pair beyond first second
      refine holds.escape (Ascii.lowerU :: _) fun rest => ?_
      rw [List.cons_append, List.append_assoc]
      exact escape rest

theorem holds_chars {body : Bytes} {text : List Char} (denotes : DenotesChars body text) :
    Holds body (.ok (Utf8.encodeChars text)) := by
  induction denotes with
  | nil => exact .nil
  | cons first _ ih => exact holds_char first ih

def Spells (quoted : Bytes) (result : Except Problem String) : Prop :=
  ∃ body, quoted = Ascii.quote :: body ∧
    ∀ rest, textBody (body ++ rest) = result.map (·, rest)

def spelled (quoted : Bytes) : Except Problem String := (textBody quoted.tail).map (·.1)

theorem Spells.spelled_eq {quoted : Bytes} {result : Except Problem String}
    (spells : Spells quoted result) : spelled quoted = result := by
  obtain ⟨body, rfl, read⟩ := spells
  have alone := read []
  rw [List.append_nil] at alone
  rw [spelled, List.tail_cons, alone]
  cases result <;> rfl

theorem spells_of_holds {body : Bytes} {bytes : Except Problem Bytes} (holds : Holds body bytes) :
    Spells (Ascii.quote :: (body ++ [Ascii.quote])) (bytes >>= fun bytes =>
      match Utf8.decode bytes with
      | .ok s => .ok s
      | .error _ => .error .badUnicode) := by
  refine ⟨_, rfl, fun rest => ?_⟩
  have read := holds rest (body ++ Ascii.quote :: rest) (by simp)
  rw [List.append_assoc, List.singleton_append, textBody, read]
  cases bytes with
  | error problem => rfl
  | ok bytes =>
      simp only [Except.map, bind, Except.bind]
      cases Utf8.decode bytes <;> rfl

theorem spells_of_denotes {quoted : Bytes} {s : String} (denotes : DenotesText quoted s) :
    Spells quoted (.ok s) := by
  obtain ⟨body, chars, rfl⟩ := denotes
  have spells := spells_of_holds (holds_chars chars)
  have decoded := Utf8.decode_encode s
  rw [Utf8.encode] at decoded
  simpa [bind, Except.bind, decoded] using spells

/-! ## Rendered texts -/

theorem hexValue_hexDigit :
    ∀ n < 16, (Utf8.encodeChars [hexDigit n]).map Ascii.hexValue? = [some n] := by
  decide

theorem denotesUnit_control {n : Nat} (h : n < 0x20) :
    DenotesUnit (Utf8.encodeChars ['0', '0', hexDigit (n / 16), hexDigit (n % 16)]) n := by
  refine ⟨0, 0, n / 16, n % 16, ?_, by omega⟩
  have apart : ['0', '0', hexDigit (n / 16), hexDigit (n % 16)] =
      ['0', '0'] ++ ([hexDigit (n / 16)] ++ [hexDigit (n % 16)]) := rfl
  rw [apart, Utf8.encodeChars_append, Utf8.encodeChars_append, List.map_append, List.map_append,
    hexValue_hexDigit _ (by omega), hexValue_hexDigit _ (by omega)]
  rfl

theorem denotesChar_escapedChar (c : Char) : DenotesChar (Utf8.encodeChars (escapedChar c)) c := by
  have letter {l : UInt8} {d : Char} (same : c = d) (h : (l, d) ∈ escapeLetters) :
      DenotesChar [Ascii.backslash, l] c := by
    subst same
    exact .letter h
  unfold escapedChar
  split
  · exact letter ‹_› (l := Ascii.quote) (by decide)
  split
  · exact letter ‹_› (l := Ascii.backslash) (by decide)
  split
  · exact letter ‹_› (l := Ascii.lowerB) (by decide)
  split
  · exact letter ‹_› (l := Ascii.lowerF) (by decide)
  split
  · exact letter ‹_› (l := Ascii.lowerN) (by decide)
  split
  · exact letter ‹_› (l := Ascii.lowerR) (by decide)
  split
  · exact letter ‹_› (l := Ascii.lowerT) (by decide)
  split
  · exact .unit (denotesUnit_control ‹_›)
  · have alone : Utf8.encodeChars [c] = String.utf8EncodeChar c := List.flatMap_singleton _ _
    rw [alone]
    exact .plain ‹_› ‹_› (by omega)

theorem denotesChars_escaped (text : List Char) :
    DenotesChars (Utf8.encodeChars (text.flatMap escapedChar)) text := by
  induction text with
  | nil => exact .nil
  | cons c text ih =>
      rw [List.flatMap_cons, Utf8.encodeChars_append]
      exact .cons (denotesChar_escapedChar c) ih

theorem denotesText_renderText (s : String) : DenotesText (Utf8.encodeChars (renderText s)) s := by
  refine ⟨_, denotesChars_escaped s.toList, ?_⟩
  have quote : Utf8.encodeChars ['"'] = [Ascii.quote] := rfl
  rw [renderText, ← List.singleton_append, Utf8.encodeChars_append, Utf8.encodeChars_append,
    quote, List.singleton_append]

end MuxConsole.Json
