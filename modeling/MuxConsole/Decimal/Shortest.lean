import MuxConsole.Decimal.Double

/-!
# The shortest decimal that reads back

The reals that round to a double form an interval around it, its ends included
when the mantissa is even.  For one digit, two digits and so on, the two
neighbours of the value on that decimal grid are tried; the first grid with a
neighbour inside the interval gives the digits, the nearer neighbour if both
are inside, and the even one if they are equally near.
-/

namespace MuxConsole.Decimal

structure Scientific where
  digits : Nat
  exponent : Int
deriving DecidableEq, Repr

namespace Scientific

def strip : Nat → Scientific → Scientific
  | 0, d => d
  | fuel + 1, d =>
      if d.digits ≠ 0 ∧ d.digits % 10 = 0
      then strip fuel ⟨d.digits / 10, d.exponent + 1⟩ else d

def scaleBinary (a : Nat) (p q : Int) : Nat := a * twoTo p.toNat * tenTo (-q).toNat

def scaleDecimal (c : Nat) (p q : Int) : Nat := c * tenTo q.toNat * twoTo (-p).toNat

end Scientific

/-- The interval of the reals that round to a double, in quarters of the unit
of its mantissa. -/
structure Interval where
  low : Nat
  value : Nat
  high : Nat
  /-- Exponent of the quarter. -/
  quarter : Int
  closed : Bool
deriving DecidableEq, Repr

namespace Interval

def ofDouble (d : Double) : Interval :=
  let m := d.mantissa
  { low := if d.fraction = 0 ∧ 1 < d.exponentField then 4 * m - 1 else 4 * m - 2
    value := 4 * m
    high := 4 * m + 2
    quarter := d.exponent - 2
    closed := m % 2 = 0 }

def holds (i : Interval) (d : Scientific) : Bool :=
  let point := Scientific.scaleDecimal d.digits i.quarter d.exponent
  let low := Scientific.scaleBinary i.low i.quarter d.exponent
  let high := Scientific.scaleBinary i.high i.quarter d.exponent
  if i.closed then low ≤ point && point ≤ high else low < point && point < high

/-- The nearer of the value's two neighbours on the grid of `10 ^ exponent`
among those in the interval. -/
def onGrid (i : Interval) (exponent : Int) : Option Scientific :=
  let value := Scientific.scaleBinary i.value i.quarter exponent
  let unit := Scientific.scaleDecimal 1 i.quarter exponent
  let below : Scientific := ⟨value / unit, exponent⟩
  let above : Scientific := ⟨value / unit + 1, exponent⟩
  let rest := value % unit
  match i.holds below, i.holds above with
  | true, true =>
      if 2 * rest < unit then some below
      else if unit < 2 * rest then some above
      else if below.digits % 2 = 0 then some below else some above
  | true, false => some below
  | false, true => some above
  | false, false => none

def firstGrid (i : Interval) (top : Int) : Nat → Nat → Scientific
  | 0, count => ⟨0, top - count⟩
  | fuel + 1, count =>
      match i.onGrid (top - count + 1) with
      | some d => d
      | none => firstGrid i top fuel (count + 1)

end Interval

def leadingExponent (num den : Nat) : Int :=
  if den ≤ num then ((Nat.toDigits 10 (num / den)).length : Int) - 1
  else
    let guess := (Nat.toDigits 10 (den / num)).length
    if num * tenTo (guess - 1) < den then -guess else -(guess - 1)

/-- The shortest decimal that reads back as the magnitude of a double. -/
def shortest (d : Double) : Scientific :=
  let (num, den) := d.ratio
  ((Interval.ofDouble d).firstGrid (leadingExponent num den) 17 1).strip 20

end MuxConsole.Decimal
