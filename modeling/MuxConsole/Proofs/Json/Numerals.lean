import MuxConsole.Json.Read

/-!
# Numerals by their form

A numeral is read up to the first byte that does not belong to it, part by part: its sign,
its whole part, its decimals and its exponent.
-/

namespace MuxConsole.Json

/-! ## Forms -/

def IsDigits (digits : Bytes) : Prop := digits ≠ [] ∧ ∀ b ∈ digits, Ascii.isDigit b = true

inductive IsWhole : Bytes → Prop
  | zero : IsWhole [Ascii.zero]
  | digits {b : UInt8} {more : Bytes} (nonzero : b ≠ Ascii.zero) (h : IsDigits (b :: more)) :
      IsWhole (b :: more)

inductive IsFraction : Bytes → Prop
  | none : IsFraction []
  | some {digits : Bytes} (h : IsDigits digits) : IsFraction (Ascii.dot :: digits)

inductive IsExponent : Bytes → Prop
  | none : IsExponent []
  | some {e : UInt8} {sign digits : Bytes} (letter : e = Ascii.lowerE ∨ e = Ascii.upperE)
      (hsign : sign ∈ [[], [Ascii.plus], [Ascii.minus]]) (h : IsDigits digits) :
      IsExponent (e :: (sign ++ digits))

def IsNumeral (text : Bytes) : Prop :=
  ∃ sign whole fraction exponent, text = sign ++ (whole ++ (fraction ++ exponent)) ∧
    sign ∈ [[], [Ascii.minus]] ∧ IsWhole whole ∧ IsFraction fraction ∧ IsExponent exponent

/-! ## What comes after a numeral -/

/-- The input goes on with nothing that belongs to a numeral. -/
def EndsNumeral (rest : Bytes) : Prop :=
  ∀ b ∈ rest.head?, Ascii.isDigit b = false ∧ b ≠ Ascii.dot ∧ b ≠ Ascii.lowerE ∧
    b ≠ Ascii.upperE

def EndsDigits (rest : Bytes) : Prop := ∀ b ∈ rest.head?, Ascii.isDigit b = false

variable {rest : Bytes}

theorem EndsNumeral.endsDigits (ends : EndsNumeral rest) : EndsDigits rest :=
  fun b hb => (ends b hb).1

theorem decimalPart_ends (atEnd : Problem) (ends : EndsNumeral rest) :
    decimalPart atEnd rest = .ok ([], rest) := by
  cases rest with
  | nil => rfl
  | cons b rest => rw [decimalPart, if_neg (ends b rfl).2.1]

theorem exponentPart_ends (atEnd : Problem) (ends : EndsNumeral rest) :
    exponentPart atEnd rest = .ok (none, rest) := by
  cases rest with
  | nil => rfl
  | cons b rest =>
      obtain ⟨_, _, noLower, noUpper⟩ := ends b rfl
      rw [exponentPart, if_neg (not_or_intro noLower noUpper)]

/-! ## Parts -/

theorem someDigits_append {digits : Bytes} (h : IsDigits digits) (ends : EndsDigits rest)
    (atEnd : Problem) : someDigits atEnd (digits ++ rest) = .ok (digits, rest) := by
  obtain ⟨nonempty, all⟩ := h
  obtain ⟨b, more, rfl⟩ := List.exists_cons_of_ne_nil nonempty
  obtain ⟨first, others⟩ := List.forall_mem_cons.mp all
  rw [List.cons_append, someDigits, if_pos first, List.takeWhile_append_of_pos others,
    List.dropWhile_append_of_pos others]
  cases rest with
  | nil => simp
  | cons c rest => simp [ends c rfl]

theorem wholePart_append {whole : Bytes} (h : IsWhole whole) (ends : EndsDigits rest)
    (atEnd : Problem) : wholePart atEnd (whole ++ rest) = .ok (whole, rest) := by
  cases h with
  | zero =>
      cases rest with
      | nil => rfl
      | cons c rest => simp [wholePart, ends c rfl]
  | digits nonzero h =>
      have read := someDigits_append h ends atEnd
      rw [List.cons_append] at read ⊢
      simp only [wholePart, if_neg nonzero, read]

theorem exists_decimals {fraction : Bytes} (h : IsFraction fraction) :
    ∃ digits, ∀ atEnd rest, EndsDigits rest → Ascii.dot ∉ rest.head? →
      decimalPart atEnd (fraction ++ rest) = .ok (digits, rest) := by
  cases h with
  | none =>
      refine ⟨[], fun atEnd rest ends noDot => ?_⟩
      cases rest with
      | nil => rfl
      | cons b rest =>
          have other : ¬ b = Ascii.dot := by
            rintro rfl
            exact noDot rfl
          rw [List.nil_append, decimalPart, if_neg other]
  | @some digits h =>
      refine ⟨digits, fun atEnd rest ends noDot => ?_⟩
      rw [List.cons_append, decimalPart, if_pos rfl, someDigits_append h ends]

theorem exists_exponentSign {sign digits : Bytes}
    (hsign : sign ∈ [[], [Ascii.plus], [Ascii.minus]]) (h : IsDigits digits) :
    ∃ negative, ∀ rest, exponentSign (sign ++ (digits ++ rest)) = (negative, digits ++ rest) := by
  simp only [List.mem_cons, List.not_mem_nil, or_false] at hsign
  rcases hsign with rfl | rfl | rfl
  · obtain ⟨nonempty, all⟩ := h
    obtain ⟨b, more, rfl⟩ := List.exists_cons_of_ne_nil nonempty
    have digit := all b List.mem_cons_self
    have noPlus : ¬ b = Ascii.plus := by
      rintro rfl
      cases digit
    have noMinus : ¬ b = Ascii.minus := by
      rintro rfl
      cases digit
    exact ⟨false, fun rest => by simp [exponentSign, noPlus, noMinus]⟩
  · exact ⟨false, fun rest => rfl⟩
  · exact ⟨true, fun rest => rfl⟩

theorem exists_exponentPart {exponent : Bytes} (h : IsExponent exponent) :
    ∃ part, ∀ atEnd rest, EndsNumeral rest →
      exponentPart atEnd (exponent ++ rest) = .ok (part, rest) := by
  cases h with
  | none => exact ⟨none, fun atEnd rest ends => exponentPart_ends atEnd ends⟩
  | @some e sign digits letter hsign h =>
      obtain ⟨negative, signed⟩ := exists_exponentSign hsign h
      refine ⟨some (negative, digits), fun atEnd rest ends => ?_⟩
      rw [List.cons_append, List.append_assoc, exponentPart, if_pos letter, signed]
      simp only [someDigits_append h ends.endsDigits, bind, Except.bind]
      rfl

theorem ends_exponent {exponent : Bytes} (h : IsExponent exponent) (ends : EndsNumeral rest) :
    EndsDigits (exponent ++ rest) ∧ Ascii.dot ∉ (exponent ++ rest).head? := by
  cases h with
  | none => exact ⟨ends.endsDigits, fun dot => (ends _ dot).2.1 rfl⟩
  | some letter =>
      constructor
      · rintro b ⟨⟩
        rcases letter with rfl | rfl <;> decide
      · rintro ⟨⟩
        rcases letter with h | h <;> cases h

theorem ends_fraction {fraction : Bytes} (h : IsFraction fraction) (ends : EndsDigits rest) :
    EndsDigits (fraction ++ rest) := by
  cases h with
  | none => exact ends
  | some =>
      rintro b ⟨⟩
      decide

theorem IsWhole.exists_cons {whole : Bytes} (h : IsWhole whole) :
    ∃ b more, whole = b :: more ∧ Ascii.isDigit b = true := by
  cases h with
  | zero => exact ⟨_, _, rfl, rfl⟩
  | digits _ h => exact ⟨_, _, rfl, h.2 _ List.mem_cons_self⟩

/-! ## Whole numerals -/

theorem IsNumeral.exists_numeral {text : Bytes} (h : IsNumeral text) :
    ∃ n : Numeral, ∀ atEnd rest, EndsNumeral rest →
      numeral atEnd (text ++ rest) = .ok (n, rest) := by
  obtain ⟨sign, whole, fraction, exponent, rfl, hsign, hwhole, hfraction, hexponent⟩ := h
  obtain ⟨decimals, readDecimals⟩ := exists_decimals hfraction
  obtain ⟨part, readExponent⟩ := exists_exponentPart hexponent
  have read (atEnd : Problem) (rest : Bytes) (ends : EndsNumeral rest) :
      wholePart atEnd (whole ++ (fraction ++ (exponent ++ rest))) =
          .ok (whole, fraction ++ (exponent ++ rest)) ∧
        decimalPart atEnd (fraction ++ (exponent ++ rest)) = .ok (decimals, exponent ++ rest) ∧
        exponentPart atEnd (exponent ++ rest) = .ok (part, rest) := by
    obtain ⟨noDigit, noDot⟩ := ends_exponent hexponent ends
    exact ⟨wholePart_append hwhole (ends_fraction hfraction noDigit) atEnd,
      readDecimals atEnd _ noDigit noDot, readExponent atEnd rest ends⟩
  obtain ⟨b, more, hcons, digit⟩ := hwhole.exists_cons
  have noMinus : ¬ b = Ascii.minus := by
    rintro rfl
    cases digit
  simp only [List.mem_cons, List.not_mem_nil, or_false] at hsign
  rcases hsign with rfl | rfl
  · refine ⟨⟨false, whole, decimals, part⟩, fun atEnd rest ends => ?_⟩
    obtain ⟨readWhole, readDecimals, readExponent⟩ := read atEnd rest ends
    rw [hcons, List.cons_append] at readWhole
    simp only [List.nil_append, List.append_assoc, hcons, List.cons_append, numeral,
      if_neg noMinus, readWhole, readDecimals, readExponent, bind, Except.bind]
    rfl
  · refine ⟨⟨true, whole, decimals, part⟩, fun atEnd rest ends => ?_⟩
    obtain ⟨readWhole, readDecimals, readExponent⟩ := read atEnd rest ends
    simp only [List.append_assoc, List.cons_append, List.nil_append, numeral, if_pos, readWhole,
      readDecimals, readExponent, bind, Except.bind]
    rfl

end MuxConsole.Json
