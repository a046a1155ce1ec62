import MuxConsole.Decimal.Shortest
import MuxConsole.Proofs.Decimal.Nearest

/-!
# The shortest decimal rounds to its double

The interval of a double reaches half-way to its neighbours, so its double is the nearest
to whatever it holds.  The grid of seventeen digits is finer than the interval is wide,
so at the latest there one of the neighbours of the value on the grid is inside.
-/

namespace MuxConsole.Decimal

namespace Scientific

def size (d : Scientific) : ℚ := d.digits * 10 ^ d.exponent

/-! ## One scale for both bases -/

theorem zpow_mul_pow_toNat {b : ℚ} (nonzero : b ≠ 0) (p : Int) :
    b ^ p * b ^ (-p).toNat = b ^ p.toNat := by
  rw [← zpow_natCast, ← zpow_natCast, ← zpow_add₀ nonzero]
  congr 1
  omega

def scale (p q : Int) : ℚ := 2 ^ (-p).toNat * 10 ^ (-q).toNat

theorem scale_pos (p q : Int) : 0 < scale p q := by
  unfold scale
  positivity

theorem scaleBinary_eq (a : Nat) (p q : Int) :
    (scaleBinary a p q : ℚ) = a * 2 ^ p * scale p q := by
  have two := zpow_mul_pow_toNat (b := 2) two_ne_zero p
  calc (scaleBinary a p q : ℚ) = a * 2 ^ p.toNat * 10 ^ (-q).toNat := by
        simp [scaleBinary, twoTo, tenTo]
    _ = a * 2 ^ p * scale p q := by
        rw [← two, scale]
        ring

theorem scaleDecimal_eq (c : Nat) (p q : Int) :
    (scaleDecimal c p q : ℚ) = c * 10 ^ q * scale p q := by
  have ten := zpow_mul_pow_toNat (b := 10) (by norm_num) q
  calc (scaleDecimal c p q : ℚ) = c * 10 ^ q.toNat * 2 ^ (-p).toNat := by
        simp [scaleDecimal, twoTo, tenTo]
    _ = c * 10 ^ q * scale p q := by
        rw [← ten, scale]
        ring

theorem scaleBinary_le {a c : Nat} {p q : Int} :
    scaleBinary a p q ≤ scaleDecimal c p q ↔ (a : ℚ) * 2 ^ p ≤ c * 10 ^ q := by
  rw [← Nat.cast_le (α := ℚ), scaleBinary_eq, scaleDecimal_eq,
    mul_le_mul_iff_left₀ (scale_pos p q)]

theorem scaleDecimal_le {a c : Nat} {p q : Int} :
    scaleDecimal c p q ≤ scaleBinary a p q ↔ (c : ℚ) * 10 ^ q ≤ a * 2 ^ p := by
  rw [← Nat.cast_le (α := ℚ), scaleBinary_eq, scaleDecimal_eq,
    mul_le_mul_iff_left₀ (scale_pos p q)]

theorem scaleBinary_lt {a c : Nat} {p q : Int} :
    scaleBinary a p q < scaleDecimal c p q ↔ (a : ℚ) * 2 ^ p < c * 10 ^ q := by
  rw [← not_le, scaleDecimal_le, not_le]

theorem scaleDecimal_lt {a c : Nat} {p q : Int} :
    scaleDecimal c p q < scaleBinary a p q ↔ (c : ℚ) * 10 ^ q < a * 2 ^ p := by
  rw [← not_le, scaleBinary_le, not_le]

end Scientific

open Scientific

/-! ## The interval of a double -/

namespace Double

theorem mantissaOf_pos {bits : Nat} (nonzero : bits ≠ 0) : 0 < mantissaOf bits := by
  unfold mantissaOf
  split <;> omega

theorem mantissaOf_lt (bits : Nat) : mantissaOf bits < 2 ^ 53 := by
  unfold mantissaOf
  split <;> omega

/-- The gap below is one unit, or half of one where the exponent goes up. -/
theorem unitOf_pred (d : Double) :
    if d.fraction = 0 ∧ 1 < d.exponentField then
      d.mantissa = 2 ^ 52 ∧ unitOf (d.magnitudeBits - 1) = unitOf d.magnitudeBits / 2
    else unitOf (d.magnitudeBits - 1) = unitOf d.magnitudeBits := by
  have fraction : d.fraction = d.magnitudeBits % 2 ^ 52 := rfl
  have field : d.exponentField = d.magnitudeBits / 2 ^ 52 := rfl
  rw [fraction, field, mantissa_eq]
  unfold unitOf mantissaOf exponentOf
  split
  · rename_i first
    have down : (d.magnitudeBits - 1) / 2 ^ 52 = d.magnitudeBits / 2 ^ 52 - 1 := by omega
    have less : (max (d.magnitudeBits / 2 ^ 52 - 1 : Nat) 1 : Int) - 1075 =
        (max (d.magnitudeBits / 2 ^ 52 : Nat) 1 : Int) - 1075 - 1 := by omega
    refine ⟨by rw [if_neg (by omega), first.1, Nat.zero_add], ?_⟩
    rw [down, less, zpow_sub_one₀ two_ne_zero, div_eq_mul_inv]
  · have same : (max ((d.magnitudeBits - 1) / 2 ^ 52 : Nat) 1 : Int) =
        (max (d.magnitudeBits / 2 ^ 52 : Nat) 1 : Int) := by omega
    rw [same]

end Double

namespace Interval

open Double

variable {d : Double} {i : Interval} {s : Scientific}

theorem quarter_eq (d : Double) : (2 : ℚ) ^ (ofDouble d).quarter = unitOf d.magnitudeBits / 4 := by
  have split : (ofDouble d).quarter = d.exponent - 2 := rfl
  rw [split, zpow_sub₀ two_ne_zero, unit_eq]
  norm_num

theorem high_eq (d : Double) :
    ((ofDouble d).high : ℚ) * 2 ^ (ofDouble d).quarter =
      d.size + unitOf d.magnitudeBits / 2 := by
  have high : (ofDouble d).high = 4 * d.mantissa + 2 := rfl
  rw [quarter_eq, high, Double.size, unit_eq]
  push_cast
  ring

theorem low_eq (nonzero : d.magnitudeBits ≠ 0) :
    ((ofDouble d).low : ℚ) * 2 ^ (ofDouble d).quarter =
      d.size - unitOf (d.magnitudeBits - 1) / 2 := by
  have positive : 0 < d.mantissa := mantissaOf_pos nonzero
  have low : (ofDouble d).low = if d.fraction = 0 ∧ 1 < d.exponentField then
    4 * d.mantissa - 1 else 4 * d.mantissa - 2 := rfl
  have gap := unitOf_pred d
  rw [quarter_eq, low, Double.size, unit_eq]
  split at gap
  · rename_i first
    rw [if_pos first, gap.2, Nat.cast_sub (by omega)]
    push_cast
    ring
  · rename_i inner
    rw [if_neg inner, gap, Nat.cast_sub (by omega)]
    push_cast
    ring

theorem holds_iff (nonzero : d.magnitudeBits ≠ 0) :
    (ofDouble d).holds s = true ↔ Around s.size d := by
  have closed : (ofDouble d).closed = decide (d.mantissa % 2 = 0) := rfl
  have low := low_eq nonzero
  have high := high_eq d
  unfold holds
  simp only [closed]
  by_cases even : d.mantissa % 2 = 0
  · simp only [even, decide_true, if_true, Bool.and_eq_true, decide_eq_true_eq, scaleBinary_le,
      scaleDecimal_le, low, high]
    exact ⟨fun h => ⟨h.1, h.2, .inl even⟩, fun h => ⟨h.low, h.high⟩⟩
  · simp only [even, decide_false, Bool.false_eq_true, if_false, Bool.and_eq_true,
      decide_eq_true_eq, scaleBinary_lt, scaleDecimal_lt, low, high]
    exact ⟨fun h => ⟨h.1.le, h.2.le, .inr h⟩, fun h => h.ends.resolve_left even⟩

/-! ## Grids -/

theorem holds_of_onGrid {exponent : Int} (h : i.onGrid exponent = some s) : i.holds s = true := by
  unfold onGrid at h
  dsimp only at h
  split at h
  · rename_i below above
    split at h
    · cases h
      exact below
    · split at h
      · cases h
        exact above
      · split at h
        · cases h
          exact below
        · cases h
          exact above
  · rename_i below _
    cases h
    exact below
  · rename_i _ above
    cases h
    exact above
  · cases h

theorem onGrid_isSome {exponent : Int} (h : ∀ below : Scientific, below.exponent = exponent →
      below.size ≤ i.value * 2 ^ i.quarter →
      i.value * 2 ^ i.quarter < below.size + 10 ^ exponent →
      i.holds below = true ∨ i.holds ⟨below.digits + 1, exponent⟩ = true) :
    (i.onGrid exponent).isSome = true := by
  have positive : 0 < scaleDecimal 1 i.quarter exponent := by
    have size := scaleDecimal_eq 1 i.quarter exponent
    have large : (0 : ℚ) < scaleDecimal 1 i.quarter exponent := by
      rw [size]
      have := scale_pos i.quarter exponent
      positivity
    exact_mod_cast large
  have times (c : Nat) : scaleDecimal c i.quarter exponent =
      c * scaleDecimal 1 i.quarter exponent := by
    simp only [scaleDecimal]
    ring
  have neighbours := h
    ⟨scaleBinary i.value i.quarter exponent / scaleDecimal 1 i.quarter exponent, exponent⟩ rfl
    (scaleDecimal_le.mp (by rw [times]; exact Nat.div_mul_le_self _ _)) (by
      have above := Nat.lt_div_mul_add (a := scaleBinary i.value i.quarter exponent) positive
      rw [← Nat.succ_mul, ← times, scaleBinary_lt] at above
      rw [Scientific.size]
      push_cast at above
      linarith)
  unfold onGrid
  dsimp only
  split
  · split
    · rfl
    · split
      · rfl
      · split <;> rfl
  · rfl
  · rfl
  · rename_i below above
    rcases neighbours with inside | inside
    · exact absurd (below.symm.trans inside) (by decide)
    · exact absurd (above.symm.trans inside) (by decide)

theorem holds_firstGrid {top : Int} {fuel count : Nat}
    (h : ∃ more < fuel, (i.onGrid (top - (count + more : Nat) + 1)).isSome = true) :
    i.holds (i.firstGrid top fuel count) = true := by
  induction fuel generalizing count with
  | zero =>
      obtain ⟨_, impossible, _⟩ := h
      cases impossible
  | succ fuel ih =>
      rw [firstGrid]
      cases hit : i.onGrid (top - count + 1) with
      | some found => exact holds_of_onGrid hit
      | none =>
          refine ih ?_
          obtain ⟨more, bound, found⟩ := h
          cases more with
          | zero =>
              rw [Nat.add_zero, hit] at found
              cases found
          | succ more =>
              refine ⟨more, by omega, ?_⟩
              rwa [show count + 1 + more = count + (more + 1) by omega]

/-! ## The grid of seventeen digits -/

theorem onGrid_isSome_of_fine (nonzero : d.magnitudeBits ≠ 0) {exponent : Int}
    (fine : (10 : ℚ) ^ exponent <
      (unitOf (d.magnitudeBits - 1) + unitOf d.magnitudeBits) / 2) :
    ((ofDouble d).onGrid exponent).isSome = true := by
  have value : ((ofDouble d).value : ℚ) * 2 ^ (ofDouble d).quarter = d.size := by
    have four : (ofDouble d).value = 4 * d.mantissa := rfl
    rw [quarter_eq, four, Double.size, unit_eq]
    push_cast
    ring
  have gapBelow := unitOf_pos (d.magnitudeBits - 1)
  have gapAbove := unitOf_pos d.magnitudeBits
  refine onGrid_isSome fun below same least less => ?_
  rw [value] at least less
  rw [holds_iff nonzero, holds_iff nonzero]
  have next : Scientific.size ⟨below.digits + 1, exponent⟩ = below.size + 10 ^ exponent := by
    rw [Scientific.size, Scientific.size, same]
    push_cast
    ring
  rcases lt_or_ge (d.size - unitOf (d.magnitudeBits - 1) / 2) below.size with inside | outside
  · exact .inl ⟨inside.le, by linarith, .inr ⟨inside, by linarith⟩⟩
  · exact .inr ⟨by linarith, by linarith, .inr ⟨by linarith, by linarith⟩⟩

end Interval

/-! ## The exponent of the first digit -/

theorem exists_length_toDigits (n : Nat) :
    ∃ more, (Nat.toDigits 10 n).length = more + 1 ∧ n < 10 ^ (more + 1) ∧
      (0 < n → 10 ^ more ≤ n) := by
  induction n using Nat.strongRecOn with
  | ind n ih =>
      rcases Nat.lt_or_ge n 10 with small | large
      · exact ⟨0, by rw [Nat.toDigits_of_lt_base small]; rfl, small, fun positive => positive⟩
      · obtain ⟨more, length, above, below⟩ := ih (n / 10) (by omega)
        have least := below (by omega)
        refine ⟨more + 1, ?_, by rw [pow_succ]; omega, fun _ => by rw [pow_succ]; omega⟩
        rw [Nat.toDigits_of_base_le (by decide) large, List.length_append, length]
        rfl

theorem leadingExponent_le {num den : Nat} (hnum : 0 < num) (hden : 0 < den) :
    (10 : ℚ) ^ leadingExponent num den ≤ num / den := by
  have denominator : (0 : ℚ) < den := by exact_mod_cast hden
  have below {count : Nat} (h : den ≤ num * 10 ^ count) :
      (10 : ℚ) ^ (-count : Int) ≤ num / den := by
    rw [zpow_neg, zpow_natCast, le_div_iff₀ denominator, inv_mul_le_iff₀ (by positivity), mul_comm]
    exact_mod_cast h
  unfold leadingExponent
  dsimp only
  split
  · rename_i large
    obtain ⟨more, length, _, least⟩ := exists_length_toDigits (num / den)
    have quotient := (Nat.le_div_iff_mul_le hden).mp (least (Nat.div_pos large hden))
    rw [length, Nat.cast_succ, add_sub_cancel_right, zpow_natCast, le_div_iff₀ denominator]
    exact_mod_cast quotient
  · rename_i small
    obtain ⟨more, length, above, _⟩ := exists_length_toDigits (den / num)
    rw [length, Nat.add_sub_cancel]
    split
    · refine below ?_
      rw [Nat.mul_comm]
      exact ((Nat.div_lt_iff_lt_mul hnum).mp above).le
    · rename_i enough
      have exponent : (-(((more + 1 : Nat) : Int) - 1)) = (-(more : Nat) : Int) := by omega
      rw [exponent]
      exact below (Nat.le_of_not_lt enough)

theorem ratio_eq (d : Double) : (d.ratio.1 : ℚ) / d.ratio.2 = d.size := by
  have two := zpow_mul_pow_toNat (b := 2) two_ne_zero d.exponent
  have numerator : (d.ratio.1 : ℚ) = d.mantissa * 2 ^ d.exponent.toNat := by
    simp [Double.ratio, twoTo]
  have denominator : (d.ratio.2 : ℚ) = 2 ^ (-d.exponent).toNat := by
    simp [Double.ratio, twoTo]
  rw [numerator, denominator, ← two, Double.size]
  field_simp

/-! ## The shortest decimal -/

namespace Scientific

theorem size_strip (fuel : Nat) (d : Scientific) : (strip fuel d).size = d.size := by
  induction fuel generalizing d with
  | zero => rfl
  | succ fuel ih =>
      rw [strip]
      split
      · rename_i h
        have whole : d.digits = d.digits / 10 * 10 := by omega
        rw [ih, size, size, zpow_add_one₀ (by norm_num)]
        conv_rhs => rw [whole]
        push_cast
        ring
      · rfl

theorem digits_pos_of_size {d : Scientific} (positive : 0 < d.size) : 0 < d.digits := by
  refine Nat.pos_of_ne_zero fun none => ?_
  rw [size, none, Nat.cast_zero, zero_mul] at positive
  exact absurd positive (lt_irrefl 0)

end Scientific

variable {d : Double}

/-- On the grid of seventeen digits the unit is less than the interval is wide. -/
theorem grid_fine {top : Int} (h : (10 : ℚ) ^ top ≤ d.size) :
    (10 : ℚ) ^ (top - 16) <
      (Double.unitOf (d.magnitudeBits - 1) + Double.unitOf d.magnitudeBits) / 2 := by
  have unit := Double.unitOf_pos d.magnitudeBits
  have digits : (10 : ℚ) ^ (top - 16) ≤ d.mantissa * Double.unitOf d.magnitudeBits / 10 ^ 16 := by
    rw [zpow_sub₀ (by norm_num), ← Double.unit_eq, ← Double.size]
    exact div_le_div_of_nonneg_right h (by norm_num)
  refine digits.trans_lt ?_
  have gap := Double.unitOf_pred d
  split at gap
  · rw [gap.1, gap.2]
    push_cast
    linarith
  · have bound : (d.mantissa : ℚ) < 2 ^ 53 := by exact_mod_cast Double.mantissaOf_lt _
    rw [gap, add_self_div_two, div_lt_iff₀ (by norm_num), mul_comm]
    exact mul_lt_mul_of_pos_left (bound.trans (by norm_num)) unit

/-- What is printed of a double lies in the interval of what rounds to it. -/
theorem around_shortest (nonzero : d.magnitudeBits ≠ 0) : Double.Around (shortest d).size d := by
  have numerator : 0 < d.ratio.1 :=
    Nat.mul_pos (Double.mantissaOf_pos nonzero) (Nat.pow_pos (by decide))
  have denominator : 0 < d.ratio.2 := Nat.pow_pos (by decide)
  have top := leadingExponent_le numerator denominator
  rw [ratio_eq] at top
  rw [shortest]
  dsimp only
  rw [Scientific.size_strip, ← Interval.holds_iff nonzero]
  refine Interval.holds_firstGrid ⟨16, by decide, Interval.onGrid_isSome_of_fine nonzero ?_⟩
  have sixteen (e : Int) : e - ((1 + 16 : Nat) : Int) + 1 = e - 16 := by omega
  rw [sixteen]
  exact grid_fine top

theorem nearest_shortest (nonzero : d.magnitudeBits ≠ 0) :
    Double.Nearest (shortest d).size d :=
  (around_shortest nonzero).nearest

theorem digits_shortest_pos (nonzero : d.magnitudeBits ≠ 0) : 0 < (shortest d).digits :=
  Scientific.digits_pos_of_size ((around_shortest nonzero).pos nonzero)

end MuxConsole.Decimal
