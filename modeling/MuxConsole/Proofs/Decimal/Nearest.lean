import Mathlib.Algebra.Order.Field.Power
import Mathlib.Algebra.Order.Ring.Rat
import Mathlib.Tactic.FieldSimp
import Mathlib.Tactic.Linarith
import Mathlib.Tactic.Positivity
import Mathlib.Tactic.Ring
import MuxConsole.Decimal.Double

/-!
# Doubles among the rationals

The magnitudes of doubles grow with their bits, each by one unit of its mantissa to the
next.  So whatever is no further from a double than half the gaps to its neighbours is
nearest to that double.
-/

namespace MuxConsole.Decimal.Double

/-! ## Magnitudes by their bits -/

def mantissaOf (bits : Nat) : Nat :=
  if bits / 2 ^ 52 = 0 then bits % 2 ^ 52 else bits % 2 ^ 52 + 2 ^ 52

def exponentOf (bits : Nat) : Int := (max (bits / 2 ^ 52 : Nat) 1 : Int) - 1075

def unitOf (bits : Nat) : ℚ := 2 ^ exponentOf bits

def sizeOf (bits : Nat) : ℚ := mantissaOf bits * unitOf bits

def size (d : Double) : ℚ := d.mantissa * 2 ^ d.exponent

def IsFinite (d : Double) : Prop := d.magnitudeBits < 0x7FF0000000000000

/-- Among all magnitudes that of the double is the nearest, or the mantissa decides: of two
equally near it is the even one.  The infinite one counts as the next power of two. -/
def Nearest (x : ℚ) (d : Double) : Prop :=
  ∀ other : Double, other.magnitudeBits ≠ d.magnitudeBits →
    |x - d.size| < |x - other.size| ∨
      |x - d.size| = |x - other.size| ∧ d.mantissa % 2 = 0

theorem mantissa_eq (d : Double) : d.mantissa = mantissaOf d.magnitudeBits := rfl

theorem unit_eq (d : Double) : (2 : ℚ) ^ d.exponent = unitOf d.magnitudeBits := rfl

theorem size_eq (d : Double) : d.size = sizeOf d.magnitudeBits := rfl

theorem isZero_iff {d : Double} : d.isZero = true ↔ d.magnitudeBits = 0 := beq_iff_eq

theorem unitOf_pos (bits : Nat) : 0 < unitOf bits := by
  unfold unitOf
  positivity

/-! ## Neighbours -/

/-- Going to the next magnitude, the mantissa goes up by one, or it starts again where the
exponent goes up. -/
theorem next_cases (bits : Nat) :
    exponentOf (bits + 1) = exponentOf bits ∧ mantissaOf (bits + 1) = mantissaOf bits + 1 ∨
      exponentOf (bits + 1) = exponentOf bits + 1 ∧ mantissaOf bits + 1 = 2 ^ 53 ∧
        mantissaOf (bits + 1) = 2 ^ 52 := by
  have below : bits % 2 ^ 52 < 2 ^ 52 := Nat.mod_lt _ (by decide)
  unfold exponentOf mantissaOf
  rcases Nat.lt_or_ge (bits % 2 ^ 52 + 1) (2 ^ 52) with inside | last
  · have same : (bits + 1) / 2 ^ 52 = bits / 2 ^ 52 := by omega
    have next : (bits + 1) % 2 ^ 52 = bits % 2 ^ 52 + 1 := by omega
    rw [same, next]
    refine .inl ⟨rfl, ?_⟩
    split <;> omega
  · have up : (bits + 1) / 2 ^ 52 = bits / 2 ^ 52 + 1 := by omega
    have first : (bits + 1) % 2 ^ 52 = 0 := by omega
    rw [up, first, if_neg (Nat.succ_ne_zero _)]
    rcases Nat.eq_zero_or_pos (bits / 2 ^ 52) with zero | positive
    · rw [zero]
      exact .inl ⟨rfl, by rw [if_pos rfl]; omega⟩
    · rw [if_neg positive.ne']
      exact .inr ⟨by omega, by omega, by omega⟩

theorem sizeOf_succ (bits : Nat) : sizeOf (bits + 1) = sizeOf bits + unitOf bits := by
  unfold sizeOf unitOf
  rcases next_cases bits with ⟨exponent, mantissa⟩ | ⟨exponent, full, mantissa⟩
  · rw [exponent, mantissa]
    push_cast
    ring
  · have whole : (mantissaOf bits : ℚ) = 2 ^ 53 - 1 := by
      rw [eq_sub_iff_add_eq]
      exact_mod_cast full
    rw [exponent, mantissa, whole, zpow_add_one₀ two_ne_zero]
    push_cast
    ring

theorem sizeOf_strictMono {bits more : Nat} (h : bits < more) : sizeOf bits < sizeOf more := by
  induction more, h using Nat.le_induction with
  | base =>
      rw [sizeOf_succ]
      exact lt_add_of_pos_right _ (unitOf_pos bits)
  | succ more _ ih =>
      rw [sizeOf_succ]
      exact ih.trans (lt_add_of_pos_right _ (unitOf_pos more))

theorem sizeOf_above {bits other : Nat} (h : bits < other) :
    sizeOf bits + unitOf bits ≤ sizeOf other := by
  rw [← sizeOf_succ]
  rcases Nat.eq_or_lt_of_le (Nat.succ_le_of_lt h) with same | more
  · exact (congrArg sizeOf same).le
  · exact (sizeOf_strictMono more).le

theorem sizeOf_below {bits other : Nat} (h : other < bits) :
    sizeOf other ≤ sizeOf bits - unitOf (bits - 1) := by
  obtain ⟨before, rfl⟩ := Nat.exists_eq_succ_of_ne_zero (Nat.ne_zero_of_lt h)
  have step := sizeOf_succ before
  rw [Nat.succ_eq_add_one, Nat.add_sub_cancel, step, add_sub_cancel_right]
  rcases Nat.eq_or_lt_of_le (Nat.le_of_lt_succ h) with same | less
  · exact (congrArg sizeOf same).le
  · exact (sizeOf_strictMono less).le

/-! ## What rounds to a double -/

/-- Within half the gaps to the neighbours of a double, whose ends count only if the
mantissa is even. -/
structure Around (x : ℚ) (d : Double) : Prop where
  low : d.size - unitOf (d.magnitudeBits - 1) / 2 ≤ x
  high : x ≤ d.size + unitOf d.magnitudeBits / 2
  ends : d.mantissa % 2 = 0 ∨ d.size - unitOf (d.magnitudeBits - 1) / 2 < x ∧
    x < d.size + unitOf d.magnitudeBits / 2

theorem sizeOf_zero : sizeOf 0 = 0 := by
  simp [sizeOf, mantissaOf]

theorem nearest_zero {d : Double} (zero : d.magnitudeBits = 0) : Nearest 0 d := by
  intro other different
  rw [zero] at different
  have positive := sizeOf_strictMono (Nat.pos_of_ne_zero different)
  rw [size_eq, size_eq, zero, sizeOf_zero, zero_sub, zero_sub, abs_neg, abs_neg, abs_zero]
  rw [sizeOf_zero] at positive
  exact .inl (abs_pos.mpr positive.ne')

theorem Around.pos {x : ℚ} {d : Double} (around : Around x d) (nonzero : d.magnitudeBits ≠ 0) :
    0 < x := by
  have zero := sizeOf_zero
  have gap := sizeOf_below (Nat.pos_of_ne_zero nonzero)
  have unit := unitOf_pos (d.magnitudeBits - 1)
  rw [zero, ← size_eq] at gap
  linarith [around.low]

theorem Around.nearest {x : ℚ} {d : Double} (around : Around x d) : Nearest x d := by
  intro other different
  obtain ⟨low, high, ends⟩ := around
  have closer : |x - d.size| ≤ |x - other.size| ∧
      (|x - d.size| = |x - other.size| → d.mantissa % 2 = 0) := by
    rcases Nat.lt_or_gt_of_ne different with less | more
    · have gap := sizeOf_below less
      have unit := unitOf_pos (d.magnitudeBits - 1)
      rw [← size_eq, ← size_eq] at gap
      have far : |x - other.size| = x - other.size := abs_of_pos (by linarith)
      rw [far]
      rcases le_total x d.size with below | above
      · rw [abs_of_nonpos (by linarith)]
        refine ⟨by linarith, fun same => ends.resolve_right fun inside => ?_⟩
        linarith [inside.1]
      · rw [abs_of_nonneg (by linarith)]
        exact ⟨by linarith, fun same => by linarith⟩
    · have gap := sizeOf_above more
      have unit := unitOf_pos d.magnitudeBits
      rw [← size_eq, ← size_eq] at gap
      have far : |x - other.size| = other.size - x := by
        rw [abs_of_neg (by linarith), neg_sub]
      rw [far]
      rcases le_total x d.size with below | above
      · rw [abs_of_nonpos (by linarith)]
        exact ⟨by linarith, fun same => by linarith⟩
      · rw [abs_of_nonneg (by linarith)]
        refine ⟨by linarith, fun same => ends.resolve_right fun inside => ?_⟩
        linarith [inside.2]
  rcases closer.1.lt_or_eq with strictly | same
  · exact .inl strictly
  · exact .inr ⟨same, closer.2 same⟩

/-! ## Only one is nearest -/

theorem eq_of_magnitudeBits {d other : Double} (sign : d.negative = other.negative)
    (magnitude : d.magnitudeBits = other.magnitudeBits) : d = other := by
  obtain ⟨bits⟩ := d
  obtain ⟨bits'⟩ := other
  have bound := UInt64.toNat_lt bits
  have bound' := UInt64.toNat_lt bits'
  have sides : 2 ^ 63 ≤ bits.toNat ↔ 2 ^ 63 ≤ bits'.toNat := decide_eq_decide.mp sign
  have rest : bits.toNat % 2 ^ 63 = bits'.toNat % 2 ^ 63 := magnitude
  have same : bits.toNat = bits'.toNat := by omega
  rw [UInt64.toNat_inj.mp same]

theorem exists_magnitudeBits {bits : Nat} (bound : bits < 2 ^ 63) :
    ∃ d : Double, d.magnitudeBits = bits := by
  refine ⟨⟨UInt64.ofNat bits⟩, ?_⟩
  rw [magnitudeBits, UInt64.toNat_ofNat_of_lt' (bound.trans (by decide))]
  exact Nat.mod_eq_of_lt bound

theorem Nearest.not_below {x : ℚ} {d other : Double} (h : Nearest x d) (h' : Nearest x other) :
    ¬ d.magnitudeBits < other.magnitudeBits := by
  intro less
  have apart := sizeOf_strictMono less
  rw [← size_eq, ← size_eq] at apart
  obtain ⟨equal, even, even'⟩ : |x - d.size| = |x - other.size| ∧
      d.mantissa % 2 = 0 ∧ other.mantissa % 2 = 0 := by
    rcases h other less.ne' with closer | ⟨equal, even⟩
    · rcases h' d less.ne with closer' | ⟨equal', _⟩
      · exact absurd closer' closer.not_gt
      · exact absurd equal' closer.ne'
    · rcases h' d less.ne with closer' | ⟨_, even'⟩
      · exact absurd equal closer'.ne'
      · exact ⟨equal, even, even'⟩
  have middle : x - d.size = other.size - x := by
    rcases abs_eq_abs.mp equal with same | opposite
    · linarith
    · linarith
  -- Either they are neighbours, and one mantissa is odd, or one between them is nearer.
  rcases Nat.eq_or_lt_of_le (Nat.succ_le_of_lt less) with next | between
  · have odd := next_cases d.magnitudeBits
    rw [mantissa_eq] at even even'
    rw [← next, Nat.succ_eq_add_one] at even'
    omega
  · have bound : other.magnitudeBits < 2 ^ 63 := Nat.mod_lt _ (by decide)
    obtain ⟨inner, hinner⟩ := exists_magnitudeBits (between.trans bound)
    have above := sizeOf_strictMono (Nat.lt_succ_self d.magnitudeBits)
    have below := sizeOf_strictMono between
    rw [← hinner, ← size_eq, ← size_eq] at above below
    have nearer : |x - inner.size| < |x - d.size| := by
      rw [abs_of_pos (a := x - d.size) (by linarith), abs_lt]
      constructor <;> linarith
    rcases h inner (by omega) with closer | ⟨same, _⟩
    · exact closer.not_gt nearer
    · exact nearer.ne' same

theorem Nearest.unique {x : ℚ} {d other : Double} (h : Nearest x d) (h' : Nearest x other)
    (sign : d.negative = other.negative) : d = other :=
  eq_of_magnitudeBits sign
    (Nat.le_antisymm (Nat.not_lt.mp (h'.not_below h)) (Nat.not_lt.mp (h.not_below h')))

/-! ## Finite results -/

theorem isFinite_zero : IsFinite zero := by
  unfold IsFinite
  decide

theorem isFinite_ofRatio {num den : Nat} {d : Double} (h : ofRatio num den = some d) :
    d.IsFinite := by
  unfold ofRatio at h
  split at h
  · cases h
    exact isFinite_zero
  · dsimp only at h
    split at h
    · rename_i bound
      cases h
      rw [IsFinite, magnitudeBits, UInt64.toNat_ofNat_of_lt' (bound.trans (by decide))]
      exact (Nat.mod_le _ _).trans_lt bound
    · cases h

theorem magnitudeBits_neg (d : Double) : d.neg.magnitudeBits = d.magnitudeBits := by
  change (d.bits ^^^ 0x8000000000000000).toNat % 2 ^ 63 = d.bits.toNat % 2 ^ 63
  rw [UInt64.toNat_xor, Nat.xor_mod_two_pow]
  exact Nat.xor_zero _

theorem IsFinite.neg {d : Double} (h : d.IsFinite) : d.neg.IsFinite := by
  rw [IsFinite, magnitudeBits_neg]
  exact h

end MuxConsole.Decimal.Double
