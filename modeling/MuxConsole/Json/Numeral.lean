import MuxConsole.Json.Problem
import MuxConsole.Text.Ascii
import MuxConsole.Text.Utf8

/-!
# Numerals

A numeral is read in two steps: its digits are collected, then they are given a
value.  A plain numeral within the range of words is a whole number.  Any other
is a double: as many digits as fit into 64 bits make its significand, the
remaining ones only shift its exponent, and the significand is scaled by a power
of ten with one rounding per step.
-/

namespace MuxConsole.Json

abbrev Reader (α : Type) := Bytes → Except Problem (α × Bytes)

structure Numeral where
  negative : Bool
  whole : Bytes
  decimals : Bytes
  /-- Sign and digits of the exponent; a negative one is marked. -/
  exponent : Option (Bool × Bytes)
deriving DecidableEq, Repr

/-! ## Collecting the digits -/

def someDigits (atEnd : Problem) : Reader Bytes
  | [] => .error atEnd
  | b :: rest =>
      if Ascii.isDigit b then
        .ok (b :: rest.takeWhile Ascii.isDigit, rest.dropWhile Ascii.isDigit)
      else .error .badNumber

def wholePart (atEnd : Problem) : Reader Bytes
  | [] => .error atEnd
  | b :: rest =>
      if b = Ascii.zero then
        match rest with
        | [] => .ok ([b], [])
        | next :: _ =>
            if Ascii.isDigit next then .error .badNumber else .ok ([b], rest)
      else someDigits atEnd (b :: rest)

def decimalPart (atEnd : Problem) : Reader Bytes
  | [] => .ok ([], [])
  | b :: rest =>
      if b = Ascii.dot then someDigits atEnd rest else .ok ([], b :: rest)

def exponentSign : Bytes → Bool × Bytes
  | [] => (false, [])
  | b :: rest =>
      if b = Ascii.plus then (false, rest)
      else if b = Ascii.minus then (true, rest)
      else (false, b :: rest)

def exponentPart (atEnd : Problem) : Reader (Option (Bool × Bytes))
  | [] => .ok (none, [])
  | b :: rest =>
      if b = Ascii.lowerE ∨ b = Ascii.upperE then do
        let (negative, rest) := exponentSign rest
        let (digits, rest) ← someDigits atEnd rest
        return (some (negative, digits), rest)
      else .ok (none, b :: rest)

/-- A numeral up to the first byte that does not belong to it; `atEnd` is the
complaint about a text that ends where a digit has to stand. -/
def numeral (atEnd : Problem) (input : Bytes) : Except Problem (Numeral × Bytes) := do
  let (negative, input) := match input with
    | [] => (false, [])
    | b :: rest => if b = Ascii.minus then (true, rest) else (false, b :: rest)
  let (whole, input) ← wholePart atEnd input
  let (decimals, input) ← decimalPart atEnd input
  let (exponent, input) ← exponentPart atEnd input
  return (⟨negative, whole, decimals, exponent⟩, input)

/-! ## Their value -/

def digitsValue (digits : Bytes) : Nat :=
  digits.foldl (fun n b => 10 * n + Ascii.digitValue b) 0

/-- Appends digits to a significand as long as it stays within 64 bits, and
returns the digits left over. -/
def absorb (significand : Nat) : Bytes → Nat × Bytes
  | [] => (significand, [])
  | b :: rest =>
      let longer := 10 * significand + Ascii.digitValue b
      if longer < 0x10000000000000000 then absorb longer rest else (significand, b :: rest)

open Decimal in
/-- `f / 10 ^ n`, in steps of the largest power of ten that is a double. -/
def scaledDown (f : Double) (n : Nat) : Option Double :=
  if n ≤ 308 then do f.div (← Double.ofNat (tenTo n))
  else if f.isZero then some f
  else do scaledDown (← f.div (← Double.ofNat (tenTo 308))) (n - 308)
termination_by n

open Decimal in
def scaled (significand : Nat) (exponent : Int) : Option Double := do
  let f ← Double.ofNat significand
  if exponent < 0 then scaledDown f exponent.natAbs
  else if exponent ≤ 308 then f.mul (← Double.ofNat (tenTo exponent.natAbs))
  else if f.isZero then some f else none

def greatestExponent : Nat := 0x7FFFFFFF

def Numeral.magnitude (n : Numeral) : Option Decimal.Double :=
  let (significand, excess) := absorb 0 n.whole
  let (significand, unused) := absorb significand n.decimals
  let exponent : Int := excess.length - (n.decimals.length - unused.length : Nat)
  match n.exponent with
  | none => scaled significand exponent
  | some (negative, digits) =>
      let shift := digitsValue digits
      if greatestExponent < shift then
        if significand ≠ 0 ∧ !negative then none else some .zero
      else scaled significand (if negative then exponent - shift else exponent + shift)

def Numeral.word? (n : Numeral) : Option Number :=
  if n.decimals ≠ [] ∨ n.exponent.isSome then none
  else
    let magnitude := digitsValue n.whole
    if n.negative then
      if h : 0 < magnitude ∧ magnitude ≤ 0x8000000000000000 then
        some (.whole (-magnitude) ⟨by omega, by omega⟩)
      else none
    else
      if h : magnitude < 0x10000000000000000 then
        some (.whole magnitude ⟨by omega, by omega⟩)
      else none

def Numeral.value (n : Numeral) : Except Problem Number :=
  match n.word? with
  | some word => .ok word
  | none =>
      match n.magnitude with
      | some d => .ok (.double (if n.negative then d.neg else d))
      | none => .error .numberTooLarge

end MuxConsole.Json
