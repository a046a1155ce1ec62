import MuxConsole.Proofs.Decimal.Shortest
import MuxConsole.Proofs.Json.RoundTrip
import MuxConsole.Proofs.Text.Utf8

/-!
# Doubles as numerals

What a numeral stands for is a rational number.  A double is written as a numeral whose
number is that of the shortest decimal, however its digits are laid out, so the double is
the nearest to it.
-/

namespace MuxConsole.Json

open Decimal

/-! ## What numerals stand for -/

namespace Numeral

def shift (n : Numeral) : Int :=
  match n.exponent with
  | none => 0
  | some (negative, digits) => if negative then -(digitsValue digits : Int) else digitsValue digits

/-- The magnitude of the number, without any rounding. -/
def size (n : Numeral) : ℚ :=
  digitsValue (n.whole ++ n.decimals) * 10 ^ (n.shift - n.decimals.length)

/-! ## How they are written -/

def fraction (decimals : Bytes) : Bytes :=
  if decimals = [] then [] else Ascii.dot :: decimals

def exponentText : Option (Bool × Bytes) → Bytes
  | none => []
  | some (negative, digits) =>
      Ascii.lowerE :: (if negative then Ascii.minus else Ascii.plus) :: digits

def text (n : Numeral) : Bytes :=
  (if n.negative then [Ascii.minus] else []) ++
    (n.whole ++ (fraction n.decimals ++ exponentText n.exponent))

structure Sound (n : Numeral) : Prop where
  whole : IsWhole n.whole
  decimals : ∀ b ∈ n.decimals, Ascii.isDigit b = true
  exponent : ∀ part ∈ n.exponent, IsDigits part.2

theorem endsNumeral_nil : EndsNumeral [] := nofun

theorem endsDigits_nil : EndsDigits [] := nofun

theorem isExponent_exponentText {exponent : Option (Bool × Bytes)}
    (h : ∀ part ∈ exponent, IsDigits part.2) : IsExponent (exponentText exponent) := by
  cases exponent with
  | none => exact .none
  | some part =>
      obtain ⟨negative, digits⟩ := part
      have signed : exponentText (some (negative, digits)) =
          Ascii.lowerE :: ([if negative then Ascii.minus else Ascii.plus] ++ digits) := rfl
      rw [signed]
      exact .some (.inl rfl) (by cases negative <;> simp) (h _ rfl)

theorem exponentPart_exponentText {exponent : Option (Bool × Bytes)}
    (h : ∀ part ∈ exponent, IsDigits part.2) (atEnd : Problem) :
    exponentPart atEnd (exponentText exponent) = .ok (exponent, []) := by
  cases exponent with
  | none => rfl
  | some part =>
      obtain ⟨negative, digits⟩ := part
      have read := someDigits_append (h _ rfl) endsDigits_nil atEnd
      rw [List.append_nil] at read
      have signed : exponentSign ((if negative then Ascii.minus else Ascii.plus) :: digits) =
          (negative, digits) := by
        cases negative <;> rfl
      rw [exponentText, exponentPart, if_pos (.inl rfl), signed]
      simp only [read, bind, Except.bind]
      rfl

theorem isFraction_fraction {decimals : Bytes} (h : ∀ b ∈ decimals, Ascii.isDigit b = true) :
    IsFraction (fraction decimals) := by
  unfold fraction
  split
  · exact .none
  · rename_i nonempty
    exact .some ⟨nonempty, h⟩

theorem decimalPart_fraction {decimals rest : Bytes}
    (h : ∀ b ∈ decimals, Ascii.isDigit b = true) (ends : EndsDigits rest)
    (noDot : Ascii.dot ∉ rest.head?) (atEnd : Problem) :
    decimalPart atEnd (fraction decimals ++ rest) = .ok (decimals, rest) := by
  unfold fraction
  split
  · rename_i empty
    subst empty
    cases rest with
    | nil => rfl
    | cons b rest =>
        have other : ¬ b = Ascii.dot := by
          rintro rfl
          exact noDot rfl
        rw [List.nil_append, decimalPart, if_neg other]
  · rename_i nonempty
    rw [List.cons_append, decimalPart, if_pos rfl, someDigits_append ⟨nonempty, h⟩ ends]

theorem Sound.isNumeral_text {n : Numeral} (sound : n.Sound) : IsNumeral n.text :=
  ⟨_, _, _, _, rfl, by cases n.negative <;> simp, sound.whole, isFraction_fraction sound.decimals,
    isExponent_exponentText sound.exponent⟩

theorem Sound.numeral_text {n : Numeral} (sound : n.Sound) (atEnd : Problem) :
    numeral atEnd n.text = .ok (n, []) := by
  obtain ⟨negative, whole, decimals, exponent⟩ := n
  obtain ⟨hwhole, hdecimals, hexponent⟩ := sound
  dsimp only at hwhole hdecimals hexponent
  obtain ⟨noDigit, noDot⟩ := ends_exponent (isExponent_exponentText hexponent) endsNumeral_nil
  rw [List.append_nil] at noDigit noDot
  have readWhole := wholePart_append hwhole
    (ends_fraction (isFraction_fraction hdecimals) noDigit) atEnd
  have readDecimals := decimalPart_fraction hdecimals noDigit noDot atEnd
  have readExponent := exponentPart_exponentText hexponent atEnd
  cases negative with
  | false =>
      obtain ⟨b, more, rfl, digit⟩ := hwhole.exists_cons
      have noMinus : ¬ b = Ascii.minus := by
        rintro rfl
        cases digit
      have split : text ⟨false, b :: more, decimals, exponent⟩ =
          b :: (more ++ (fraction decimals ++ exponentText exponent)) := rfl
      rw [List.cons_append] at readWhole
      rw [split, numeral]
      simp only [if_neg noMinus, readWhole, readDecimals, readExponent, bind, Except.bind]
      rfl
  | true =>
      have split : text ⟨true, whole, decimals, exponent⟩ =
          Ascii.minus :: (whole ++ (fraction decimals ++ exponentText exponent)) := rfl
      rw [split, numeral]
      simp only [if_pos, readWhole, readDecimals, readExponent, bind, Except.bind]
      rfl

end Numeral

/-! ## Digits -/

theorem digitsValue_append (left right : Bytes) :
    digitsValue (left ++ right) = digitsValue left * 10 ^ right.length + digitsValue right := by
  induction right using List.reverseRecOn with
  | nil => simp [digitsValue]
  | append_singleton right b ih =>
      have last (digits : Bytes) :
          digitsValue (digits ++ [b]) = 10 * digitsValue digits + Ascii.digitValue b := by
        simp [digitsValue]
      rw [← List.append_assoc, last, last, ih, List.length_append, List.length_singleton, pow_succ]
      ring

theorem digitsValue_zeros (count : Nat) : digitsValue (List.replicate count Ascii.zero) = 0 := by
  induction count with
  | zero => rfl
  | succ count ih =>
      rw [List.replicate_succ', digitsValue_append, ih]
      rfl

theorem encodeChars_ascii {text : List Char} (h : ∀ c ∈ text, c.toNat < 0x80) :
    Utf8.encodeChars text = text.map fun c => UInt8.ofNat c.toNat := by
  induction text with
  | nil => rfl
  | cons c text ih =>
      obtain ⟨first, others⟩ := List.forall_mem_cons.mp h
      rw [List.map_cons, ← ih others, Utf8.encodeChars, List.flatMap_cons, Utf8.utf8EncodeChar_eq,
        if_pos (by omega)]
      rfl

theorem ascii_toDigits (n : Nat) : ∀ c ∈ Nat.toDigits 10 n, c.toNat < 0x80 := by
  intro c hc
  have digit := Nat.isDigit_of_mem_toDigits (by decide) (by decide) hc
  simp only [Char.isDigit, Bool.and_eq_true, decide_eq_true_eq, UInt32.le_iff_toNat_le] at digit
  have bound : c.toNat ≤ 57 := digit.2
  omega

theorem length_digits (n : Nat) : (digits n).length = (Nat.toDigits 10 n).length := by
  rw [digits, encodeChars_ascii (ascii_toDigits n), List.length_map]

theorem encodeChars_take_toDigits (n count : Nat) :
    Utf8.encodeChars ((Nat.toDigits 10 n).take count) = (digits n).take count := by
  rw [digits, encodeChars_ascii (ascii_toDigits n), ← List.map_take,
    encodeChars_ascii fun c hc => ascii_toDigits n c (List.mem_of_mem_take hc)]

theorem encodeChars_drop_toDigits (n count : Nat) :
    Utf8.encodeChars ((Nat.toDigits 10 n).drop count) = (digits n).drop count := by
  rw [digits, encodeChars_ascii (ascii_toDigits n), ← List.map_drop,
    encodeChars_ascii fun c hc => ascii_toDigits n c (List.mem_of_mem_drop hc)]

theorem encodeChars_zeros (count : Nat) :
    Utf8.encodeChars (List.replicate count '0') = List.replicate count Ascii.zero := by
  induction count with
  | zero => rfl
  | succ count ih =>
      rw [List.replicate_succ, ← List.singleton_append, Utf8.encodeChars_append, ih]
      rfl

/-! ## Laying out the digits -/

namespace DoubleLayout

variable (layout : DoubleLayout) (negative : Bool) (n : Nat) (exponent : Int)

def numeral : Numeral :=
  if layout.leastPositional ≤ exponent ∧ exponent ≤ layout.greatestPositional then
    if exponent < 0 then
      ⟨negative, [Ascii.zero],
        List.replicate (-exponent - 1).toNat Ascii.zero ++ digits n, none⟩
    else
      let ahead := exponent.toNat + 1
      let decimals := (digits n).drop ahead
      ⟨negative, (digits n).take ahead ++ List.replicate (ahead - (digits n).length) Ascii.zero,
        if decimals = [] then [Ascii.zero] else decimals, none⟩
  else
    ⟨negative, (digits n).take 1, (digits n).drop 1,
      some (decide (exponent < 0), digits exponent.natAbs)⟩

theorem text_numeral :
    (layout.numeral negative n exponent).text =
      (if negative then [Ascii.minus] else []) ++
        Utf8.encodeChars (layout.render (Nat.toDigits 10 n) exponent) := by
  have whole := encodeChars_take_toDigits n
  have decimals := encodeChars_drop_toDigits n
  have none (count : Nat) : (Nat.toDigits 10 n).drop count = [] ↔ (digits n).drop count = [] := by
    rw [List.drop_eq_nil_iff, List.drop_eq_nil_iff, length_digits]
  unfold numeral render
  split
  · split
    · have some : List.replicate (-exponent - 1).toNat Ascii.zero ++ digits n ≠ [] :=
        List.append_ne_nil_of_right_ne_nil _ (digits_ne_nil n)
      rw [encodeChars_cons (c := '0') (b := Ascii.zero) rfl, encodeChars_cons (c := '.') (b := Ascii.dot) rfl,
        Utf8.encodeChars_append, encodeChars_zeros]
      simp only [Numeral.text, Numeral.fraction, if_neg some, Numeral.exponentText,
        List.append_nil]
      rfl
    · dsimp only
      generalize exponent.toNat + 1 = ahead
      have point : Utf8.encodeChars (if (Nat.toDigits 10 n).drop ahead = [] then ['0']
          else (Nat.toDigits 10 n).drop ahead) =
            if (digits n).drop ahead = [] then [Ascii.zero] else (digits n).drop ahead := by
        by_cases empty : (digits n).drop ahead = []
        · rw [if_pos empty, if_pos ((none ahead).mpr empty)]
          rfl
        · rw [if_neg empty, if_neg (mt (none ahead).mp empty), decimals]
      have some : (if (digits n).drop ahead = [] then [Ascii.zero] else (digits n).drop ahead) ≠
          [] := by
        split
        · exact List.cons_ne_nil _ _
        · assumption
      rw [Utf8.encodeChars_append, Utf8.encodeChars_append, whole, encodeChars_zeros,
        encodeChars_cons (c := '.') (b := Ascii.dot) rfl, ← length_digits, point]
      simp only [Numeral.text, Numeral.fraction, if_neg some, Numeral.exponentText,
        List.append_nil]
  · have point : Utf8.encodeChars (if (Nat.toDigits 10 n).drop 1 = [] then []
        else '.' :: (Nat.toDigits 10 n).drop 1) = Numeral.fraction ((digits n).drop 1) := by
      by_cases empty : (digits n).drop 1 = []
      · rw [Numeral.fraction, if_pos empty, if_pos ((none 1).mpr empty)]
        rfl
      · rw [Numeral.fraction, if_neg empty, if_neg (mt (none 1).mp empty),
          encodeChars_cons (c := '.') (b := Ascii.dot) rfl, decimals]
    have power : Utf8.encodeChars ((if exponent < 0 then '-' else '+') ::
        Nat.toDigits 10 exponent.natAbs) =
          (if decide (exponent < 0) then Ascii.minus else Ascii.plus) ::
            digits exponent.natAbs := by
      by_cases below : exponent < 0
      · rw [if_pos below, if_pos (decide_eq_true below), encodeChars_cons (c := '-') (b := Ascii.minus) rfl, digits]
      · rw [if_neg below, if_neg (by simpa using below), encodeChars_cons (c := '+') (b := Ascii.plus) rfl, digits]
    dsimp only
    rw [Utf8.encodeChars_append, Utf8.encodeChars_append, whole, point,
      encodeChars_cons (c := 'e') (b := Ascii.lowerE) rfl, power]
    simp only [Numeral.text, Numeral.exponentText, List.append_assoc]

theorem sound_numeral (positive : 0 < n) : (layout.numeral negative n exponent).Sound := by
  obtain ⟨b, more, first, nonzero⟩ := digits_eq_cons positive
  have each := isDigit_of_mem_digits n
  have zeros (count : Nat) : ∀ b ∈ List.replicate count Ascii.zero, Ascii.isDigit b = true := by
    intro b hb
    rw [List.eq_of_mem_replicate hb]
    rfl
  -- Digits of the number, from its first one on, are a whole part.
  have whole (count : Nat) (trailing : Bytes) (h : ∀ b ∈ trailing, Ascii.isDigit b = true) :
      IsWhole ((digits n).take (count + 1) ++ trailing) := by
    have all : ∀ b ∈ (digits n).take (count + 1) ++ trailing, Ascii.isDigit b = true :=
      List.forall_mem_append.mpr ⟨fun b hb => each b (List.mem_of_mem_take hb), h⟩
    rw [first, List.take_succ_cons, List.cons_append] at all ⊢
    exact .digits nonzero ⟨List.cons_ne_nil _ _, all⟩
  unfold numeral
  split
  · split
    · exact ⟨.zero, List.forall_mem_append.mpr ⟨zeros _, each⟩, nofun⟩
    · refine ⟨whole _ _ (zeros _), ?_, nofun⟩
      dsimp only
      split
      · exact List.forall_mem_singleton.mpr rfl
      · exact fun b hb => each b (List.mem_of_mem_drop hb)
  · refine ⟨?_, fun b hb => each b (List.mem_of_mem_drop hb), ?_⟩
    · have alone := whole 0 [] (List.forall_mem_nil _)
      rwa [List.append_nil] at alone
    · rintro _ ⟨⟩
      exact ⟨digits_ne_nil _, isDigit_of_mem_digits _⟩

theorem mul_pow_mul_zpow {x : ℚ} {count : Nat} {p q : Int} (h : count + p = q) :
    x * 10 ^ count * 10 ^ p = x * 10 ^ q := by
  rw [← h, zpow_add₀ (by norm_num), zpow_natCast, mul_assoc]

theorem size_numeral :
    (layout.numeral negative n exponent).size =
      n * 10 ^ (exponent + 1 - (digits n).length) := by
  have value := digitsValue_digits n
  have zero : digitsValue [Ascii.zero] = 0 := rfl
  have some : 0 < (digits n).length := List.length_pos_of_ne_nil (digits_ne_nil n)
  have split (count : Nat) : (digits n).take count ++ (digits n).drop count = digits n :=
    List.take_append_drop count _
  unfold numeral Numeral.size Numeral.shift
  split
  · split
    · have zeros : digitsValue ([Ascii.zero] ++
          (List.replicate (-exponent - 1).toNat Ascii.zero ++ digits n)) = n := by
        rw [digitsValue_append, digitsValue_append, digitsValue_zeros, value, zero, Nat.zero_mul,
          Nat.zero_mul, Nat.zero_add, Nat.zero_add]
      dsimp only
      rw [zeros, List.length_append, List.length_replicate]
      congr 2
      omega
    · dsimp only
      by_cases empty : (digits n).drop (exponent.toNat + 1) = []
      · have few := List.drop_eq_nil_iff.mp empty
        have zeros : digitsValue ((digits n).take (exponent.toNat + 1) ++
            List.replicate (exponent.toNat + 1 - (digits n).length) Ascii.zero ++ [Ascii.zero]) =
              n * 10 ^ (exponent.toNat + 1 - (digits n).length + 1) := by
          rw [List.take_of_length_le few, digitsValue_append, digitsValue_append,
            digitsValue_zeros, value, zero, List.length_replicate, List.length_singleton, pow_one,
            Nat.add_zero, Nat.add_zero, pow_succ, mul_assoc]
        rw [if_pos empty, zeros]
        push_cast
        exact mul_pow_mul_zpow (by simp; omega)
      · have many : exponent.toNat + 1 < (digits n).length := by
          rw [List.drop_eq_nil_iff] at empty
          omega
        have none : exponent.toNat + 1 - (digits n).length = 0 := by omega
        rw [if_neg empty, none, List.replicate_zero, List.append_nil, split, value,
          List.length_drop]
        congr 2
        omega
  · dsimp only
    rw [split, value, List.length_drop, digitsValue_digits]
    congr 2
    by_cases below : exponent < 0
    · rw [if_pos (decide_eq_true below)]
      omega
    · rw [if_neg (by simpa using below)]
      omega

theorem word?_numeral : (layout.numeral negative n exponent).word? = none := by
  have nonempty := digits_ne_nil n
  unfold numeral Numeral.word?
  split
  · split
    · simp [nonempty]
    · dsimp only
      split <;> simp_all
  · simp

end DoubleLayout

/-! ## Doubles -/

def numeralOf (d : Double) : Numeral :=
  if d.isZero then ⟨d.negative, [Ascii.zero], [Ascii.zero], none⟩
  else
    doubleLayout.numeral d.negative (shortest d).digits
      ((shortest d).exponent + (digits (shortest d).digits).length - 1)

variable (d : Double)

theorem text_numeralOf : (numeralOf d).text = Utf8.encodeChars (renderDouble d) := by
  unfold numeralOf renderDouble
  dsimp only
  split
  · cases d.negative <;> rfl
  · rw [DoubleLayout.text_numeral, length_digits]
    cases d.negative with
    | false => rfl
    | true => exact (encodeChars_cons (c := '-') (b := Ascii.minus) rfl _).symm

theorem sound_numeralOf : (numeralOf d).Sound := by
  unfold numeralOf
  split
  · exact ⟨.zero, List.forall_mem_singleton.mpr rfl, nofun⟩
  · rename_i nonzero
    exact DoubleLayout.sound_numeral _ _ _ _ (digits_shortest_pos (mt Double.isZero_iff.mpr nonzero))

theorem negative_numeralOf : (numeralOf d).negative = d.negative := by
  unfold numeralOf DoubleLayout.numeral
  split
  · rfl
  · split
    · split <;> rfl
    · rfl

theorem word?_numeralOf : (numeralOf d).word? = none := by
  unfold numeralOf
  split
  · rfl
  · exact DoubleLayout.word?_numeral _ _ _ _

/-- A double is nearest to the number that it is written as. -/
theorem nearest_numeralOf : Double.Nearest (numeralOf d).size d := by
  unfold numeralOf
  split
  · rename_i zero
    have none : Numeral.size ⟨d.negative, [Ascii.zero], [Ascii.zero], Option.none⟩ = 0 := by
      have zeros : digitsValue ([Ascii.zero] ++ [Ascii.zero]) = 0 := rfl
      rw [Numeral.size, zeros, Nat.cast_zero, zero_mul]
    rw [none]
    exact Double.nearest_zero (Double.isZero_iff.mp zero)
  · rename_i nonzero
    rw [DoubleLayout.size_numeral]
    have exponent (e : Int) (count : Nat) : e + count - 1 + 1 - count = e := by omega
    rw [exponent]
    exact nearest_shortest (mt Double.isZero_iff.mpr nonzero)

end MuxConsole.Json
