import MuxConsole.Json.Render
import MuxConsole.Proofs.Json.Numerals

/-!
# Whole numbers survive their rendering

The digits of a number are read up to the first byte that does not belong to a
numeral.  Their value is the number, and a number in the range of words is no
double.
-/

namespace MuxConsole.Json

/-! ## Digits -/

def digit (d : Nat) : UInt8 := UInt8.ofNat (48 + d)

def digits (n : Nat) : Bytes := Utf8.encodeChars (Nat.toDigits 10 n)

theorem encodeChars_digitChar :
    ∀ d < 10, Utf8.encodeChars [Nat.digitChar d] = [digit d] := by
  decide

theorem isDigit_digit : ∀ d < 10, Ascii.isDigit (digit d) = true := by
  decide

theorem digitValue_digit : ∀ d < 10, Ascii.digitValue (digit d) = d := by
  decide

theorem digits_of_lt {n : Nat} (h : n < 10) : digits n = [digit n] := by
  rw [digits, Nat.toDigits_of_lt_base h, encodeChars_digitChar n h]

theorem digits_of_le {n : Nat} (h : 10 ≤ n) :
    digits n = digits (n / 10) ++ [digit (n % 10)] := by
  rw [digits, Nat.toDigits_of_base_le (by decide) h, Utf8.encodeChars_append,
    encodeChars_digitChar _ (Nat.mod_lt n (by decide)), digits]

theorem digits_induction {P : Nat → Prop} (single : ∀ n < 10, P n)
    (append : ∀ n, 10 ≤ n → P (n / 10) → P n) (n : Nat) : P n := by
  induction n using Nat.strongRecOn with
  | ind n ih =>
      by_cases small : n < 10
      · exact single n small
      · exact append n (by omega) (ih (n / 10) (by omega))

theorem isDigit_of_mem_digits (n : Nat) : ∀ b ∈ digits n, Ascii.isDigit b = true := by
  induction n using digits_induction with
  | single n small =>
      intro b hb
      rw [digits_of_lt small, List.mem_singleton] at hb
      rw [hb]
      exact isDigit_digit n small
  | append n large ih =>
      intro b hb
      rw [digits_of_le large, List.mem_append, List.mem_singleton] at hb
      rcases hb with hb | rfl
      · exact ih b hb
      · exact isDigit_digit _ (Nat.mod_lt n (by decide))

theorem digitsValue_digits (n : Nat) : digitsValue (digits n) = n := by
  induction n using digits_induction with
  | single n small =>
      rw [digits_of_lt small]
      change 10 * 0 + Ascii.digitValue (digit n) = n
      rw [digitValue_digit n small, Nat.zero_add]
  | append n large ih =>
      rw [digits_of_le large, digitsValue, List.foldl_append, ← digitsValue, ih]
      change 10 * (n / 10) + Ascii.digitValue (digit (n % 10)) = n
      rw [digitValue_digit _ (Nat.mod_lt n (by decide))]
      omega

theorem digits_eq_cons {n : Nat} (positive : 0 < n) :
    ∃ b rest, digits n = b :: rest ∧ b ≠ Ascii.zero := by
  induction n using digits_induction with
  | single n small =>
      refine ⟨digit n, [], digits_of_lt small, ?_⟩
      have nonzero : ∀ d < 10, 0 < d → digit d ≠ Ascii.zero := by decide
      exact nonzero n small positive
  | append n large ih =>
      obtain ⟨b, rest, hdigits, nonzero⟩ := ih (by omega)
      exact ⟨b, rest ++ [digit (n % 10)], by rw [digits_of_le large, hdigits]; rfl, nonzero⟩

/-! ## Numerals -/

variable {rest : Bytes}

theorem isWhole_digits (n : Nat) : IsWhole (digits n) := by
  by_cases positive : 0 < n
  · obtain ⟨b, more, hdigits, nonzero⟩ := digits_eq_cons positive
    have allDigits := isDigit_of_mem_digits n
    rw [hdigits] at allDigits ⊢
    exact .digits nonzero ⟨List.cons_ne_nil _ _, allDigits⟩
  · obtain rfl : n = 0 := by omega
    exact .zero

theorem encodeChars_renderWhole (n : Int) :
    Utf8.encodeChars (renderWhole n) =
      if n < 0 then Ascii.minus :: digits n.natAbs else digits n.natAbs := by
  unfold renderWhole
  split
  · rfl
  · rfl

theorem isNumeral_renderWhole (n : Int) : IsNumeral (Utf8.encodeChars (renderWhole n)) := by
  have whole := isWhole_digits n.natAbs
  rw [encodeChars_renderWhole]
  split
  · exact ⟨[Ascii.minus], digits n.natAbs, [], [], by simp, by simp, whole, .none, .none⟩
  · exact ⟨[], digits n.natAbs, [], [], by simp, by simp, whole, .none, .none⟩

theorem digits_ne_nil (n : Nat) : digits n ≠ [] := by
  by_cases small : n < 10
  · rw [digits_of_lt small]
    exact List.cons_ne_nil _ _
  · rw [digits_of_le (by omega)]
    exact List.append_ne_nil_of_right_ne_nil _ (List.cons_ne_nil _ _)

theorem exists_digits_eq_cons (n : Nat) :
    ∃ b more, digits n = b :: more ∧ Ascii.isDigit b = true := by
  obtain ⟨b, more, hdigits⟩ := List.exists_cons_of_ne_nil (digits_ne_nil n)
  refine ⟨b, more, hdigits, isDigit_of_mem_digits n b ?_⟩
  rw [hdigits]
  exact List.mem_cons_self

theorem numeral_renderWhole (atEnd : Problem) (n : Int) (ends : EndsNumeral rest) :
    numeral atEnd (Utf8.encodeChars (renderWhole n) ++ rest) =
      .ok (⟨decide (n < 0), digits n.natAbs, [], none⟩, rest) := by
  have whole := wholePart_append (isWhole_digits n.natAbs) ends.endsDigits atEnd
  have decimals := decimalPart_ends atEnd ends
  have exponent := exponentPart_ends atEnd ends
  rw [encodeChars_renderWhole]
  split
  · rename_i negative
    simp only [List.cons_append, numeral, if_pos, whole, decimals, exponent, bind, Except.bind,
      negative, decide_true]
    rfl
  · rename_i natural
    obtain ⟨b, more, hdigits, isDigit⟩ := exists_digits_eq_cons n.natAbs
    have noMinus : ¬ b = Ascii.minus := by
      rintro rfl
      cases isDigit
    rw [hdigits] at whole ⊢
    simp only [List.cons_append] at whole ⊢
    simp only [numeral, if_neg noMinus, whole, decimals, exponent, bind, Except.bind,
      natural, decide_false]
    rfl

theorem value_wholeNumeral (n : Int) (inRange : IsWord n) :
    Numeral.value ⟨decide (n < 0), digits n.natAbs, [], none⟩ = .ok (.whole n inRange) := by
  have magnitude := digitsValue_digits n.natAbs
  by_cases negative : n < 0
  · have bounds : 0 < n.natAbs ∧ n.natAbs ≤ 0x8000000000000000 := by omega
    have same : -(n.natAbs : Int) = n := by omega
    simpa [Numeral.value, Numeral.word?, magnitude, negative, bounds] using same
  · have bound : n.natAbs < 0x10000000000000000 := by omega
    have same : (n.natAbs : Int) = n := by omega
    simpa [Numeral.value, Numeral.word?, magnitude, negative, bound] using same

theorem scanNumber_renderWhole (n : Int) (inRange : IsWord n) (ends : EndsNumeral rest) :
    scanNumber (Utf8.encodeChars (renderWhole n) ++ rest) = .ok (.whole n inRange, rest) := by
  simp only [scanNumber, numeral_renderWhole _ n ends, bind, Except.bind,
    value_wholeNumeral n inRange]
  rfl

end MuxConsole.Json
