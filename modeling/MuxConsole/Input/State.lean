import MuxConsole.Json.Schema
import MuxConsole.Text.Digit
import MuxConsole.Text.Word

/-!
# States of inputs

A state is reported as a word and a code in brackets.  Only the code counts:
the words have changed between releases.
-/

namespace MuxConsole.Input

inductive State where
  | unknown
  | noData
  | unstable
  | silent
  | streaming
deriving DecidableEq, Repr

namespace State

def all : List State := [.unknown, .noData, .unstable, .silent, .streaming]

def code : State → Nat
  | .unknown => 0
  | .noData => 1
  | .unstable => 2
  | .silent => 3
  | .streaming => 4

def ofCode? : Nat → Option State
  | 0 => some .unknown
  | 1 => some .noData
  | 2 => some .unstable
  | 3 => some .silent
  | 4 => some .streaming
  | _ => none

@[simp] theorem ofCode?_code (s : State) : ofCode? s.code = some s := by
  cases s <;> rfl

def name : State → String
  | .unknown => "Unknown"
  | .noData => "NoData"
  | .unstable => "Unstable"
  | .silent => "Silent"
  | .streaming => "Streaming"

def ofName? (name : String) : Option State := all.find? fun s => s.name = name

def display (s : State) : String := s!"{s.name} ({s.code})"

/-! ## Reading a report -/

/-- The digits in brackets after a word and a blank, those of any script; anything
may follow. -/
def codeDigits? (report : List Char) : Option (List Char) :=
  match report.takeWhile Text.isWord, report.dropWhile Text.isWord with
  | _ :: _, ' ' :: '(' :: rest =>
      match rest.takeWhile Text.isDigit, rest.dropWhile Text.isDigit with
      | digit :: digits, ')' :: _ => some (digit :: digits)
      | _, _ => none
  | _, _ => none

def appendDigit? (n : UInt8) (c : Char) : Option UInt8 :=
  if c.isDigit then
    let longer := 10 * n.toNat + (c.toNat - '0'.toNat)
    if longer < 0x100 then some (UInt8.ofNat longer) else none
  else none

def byte? (digits : List Char) : Option UInt8 := digits.foldlM appendDigit? 0

def decode? (report : String) : Option State := do
  let code ← byte? (← codeDigits? report.toList)
  ofCode? code.toNat

/-! ## As JSON -/

def toJson (s : State) : Json := .text s.name

open Json in
def ofVariant (name : String) : Except Problem State :=
  match ofName? name with
  | some s => .ok s
  | none => .error (.unknownName name (all.map State.name))

open Json in
def readMember (input : Bytes) : Except Problem (State × Bytes) := do
  match ← scanHead input with
  | (.text name, rest) =>
      let s ← ofVariant name
      match ← scanHead (← expectColon rest) with
      | (.null, rest) =>
          match skipBlanks rest with
          | [] => throw .objectEnds
          | b :: rest =>
              if b = Ascii.closeBrace then return (s, rest) else throw .valueExpected
      | (h, _) => throw (.wrongType h "unit")
  | (h, _) => throw (.wrongType h "variant identifier")

open Json in
def read (input : Bytes) : Except Problem (State × Bytes) :=
  match skipBlanks input with
  | [] => .error .valueEnds
  | b :: rest =>
      if b = Ascii.quote then do
        let (name, rest) ← textBody rest
        return (← ofVariant name, rest)
      else if b = Ascii.openBrace then readMember rest
      else .error .valueExpected

open Json in
def parse (input : Bytes) : Except Problem State := whole read input

end State

end MuxConsole.Input
