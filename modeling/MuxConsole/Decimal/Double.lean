/-!
# Doubles as binary fractions

A finite double is held by its bits.  Its magnitude is `mantissa * 2 ^ exponent`,
and rounding goes from a quotient of naturals to the nearest double, a tie to
the even mantissa.  All of it is arithmetic on naturals, so it can be computed
in a proof as well as at run time.
-/

namespace MuxConsole.Decimal

def twoTo (n : Nat) : Nat := Nat.pow 2 n

def tenTo (n : Nat) : Nat := Nat.pow 10 n

structure Double where
  bits : UInt64
deriving DecidableEq, Repr, Inhabited

namespace Double

def negative (d : Double) : Bool := twoTo 63 ≤ d.bits.toNat

def magnitudeBits (d : Double) : Nat := d.bits.toNat % twoTo 63

def exponentField (d : Double) : Nat := d.magnitudeBits / twoTo 52

def fraction (d : Double) : Nat := d.magnitudeBits % twoTo 52

def mantissa (d : Double) : Nat :=
  if d.exponentField = 0 then d.fraction else d.fraction + twoTo 52

def exponent (d : Double) : Int := (max d.exponentField 1 : Int) - 1075

def isZero (d : Double) : Bool := d.magnitudeBits == 0

def neg (d : Double) : Double := ⟨d.bits ^^^ 0x8000000000000000⟩

def zero : Double := ⟨0⟩

def ratio (d : Double) : Nat × Nat :=
  (d.mantissa * twoTo d.exponent.toNat, twoTo (-d.exponent).toNat)

/-- `num / den` to the nearest natural, a tie to the even one. -/
def roundQuotient (num den : Nat) : Nat :=
  let floor := num / den
  let rest := num % den
  if 2 * rest < den then floor
  else if den < 2 * rest then floor + 1
  else floor + floor % 2

/-- The exponent of the last mantissa bit of `num / den`, at least that of the
subnormal numbers. -/
def lastBit (num den : Nat) : Int :=
  let guess := (num.log2 : Int) - den.log2 - 52
  let low := if num * twoTo (-guess).toNat < den * twoTo guess.toNat * twoTo 52
    then guess - 1 else guess
  max low (-1074)

/-- The double nearest to `num / den`, or `none` where that is infinite. -/
def ofRatio (num den : Nat) : Option Double :=
  if num = 0 then some zero
  else
    let last := lastBit num den
    let mantissa := roundQuotient (num * twoTo (-last).toNat) (den * twoTo last.toNat)
    let bits := mantissa + (last + 1074).toNat * twoTo 52
    if bits < 0x7FF0000000000000 then some ⟨UInt64.ofNat bits⟩ else none

def mul (a b : Double) : Option Double :=
  ofRatio (a.ratio.1 * b.ratio.1) (a.ratio.2 * b.ratio.2)

def div (a b : Double) : Option Double :=
  ofRatio (a.ratio.1 * b.ratio.2) (a.ratio.2 * b.ratio.1)

def ofNat (n : Nat) : Option Double := ofRatio n 1

end Double

end MuxConsole.Decimal
