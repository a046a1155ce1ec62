import MuxConsole.Json.Scan

/-!
# Skipping values

A value that nobody asked for is passed over with fewer checks than one that is
read: any depth, any size of number, and texts whose bytes and surrogates are
not looked at.
-/

namespace MuxConsole.Json

/-! ## Texts -/

def skipEscape : Bytes → Except Problem Bytes
  | [] => .error .textEnds
  | b :: rest =>
      if b = Ascii.lowerU then (hexUnit rest).map (·.2)
      else if (escapeLetter? b).isSome then .ok rest
      else .error .badEscape

def skipText : (clock input : Bytes) → Except Problem Bytes
  | [], _ => .error .textEnds
  | _ :: _, [] => .error .textEnds
  | _ :: clock, b :: rest =>
      if b = Ascii.quote then .ok rest
      else if b = Ascii.backslash then do skipText clock (← skipEscape rest)
      else if b < Ascii.space then .error .controlCharacter
      else skipText clock rest

/-! ## Heads of values -/

inductive Opening where
  | scalar
  | list
  | object
deriving DecidableEq

def skipHead (input : Bytes) : Except Problem (Opening × Bytes) :=
  match skipBlanks input with
  | [] => .error .valueEnds
  | b :: rest =>
      if b = Ascii.lowerN then
        (expectWord [Ascii.lowerU, Ascii.lowerL, Ascii.lowerL] rest).map (.scalar, ·)
      else if b = Ascii.lowerT then
        (expectWord [Ascii.lowerR, Ascii.lowerU, Ascii.lowerE] rest).map (.scalar, ·)
      else if b = Ascii.lowerF then
        (expectWord [Ascii.lowerA, Ascii.lowerL, Ascii.lowerS, Ascii.lowerE] rest).map
          (.scalar, ·)
      else if b = Ascii.minus ∨ Ascii.isDigit b then
        (numeral .badNumber (b :: rest)).map fun (_, rest) => (.scalar, rest)
      else if b = Ascii.quote then (skipText rest rest).map (.scalar, ·)
      else if b = Ascii.openBracket then .ok (.list, rest)
      else if b = Ascii.openBrace then .ok (.object, rest)
      else .error .valueExpected

/-! ## Lists and objects -/

def skipItems (item : Bytes → Except Problem Bytes) (first : Bool) :
    (clock input : Bytes) → Except Problem Bytes
  | [], _ => .error .listEnds
  | _ :: clock, input =>
      match skipBlanks input with
      | [] => .error .listEnds
      | b :: rest =>
          if b = Ascii.closeBracket then .ok rest
          else if first then do skipItems item false clock (← item (b :: rest))
          else if b = Ascii.comma then do skipItems item false clock (← item rest)
          else .error .itemEndExpected

def skipKey (input : Bytes) : Except Problem Bytes :=
  match skipBlanks input with
  | [] => .error .objectEnds
  | b :: rest =>
      if b = Ascii.quote then do expectColon (← skipText rest rest)
      else .error .keyIsNoText

def skipMembers (value : Bytes → Except Problem Bytes) (first : Bool) :
    (clock input : Bytes) → Except Problem Bytes
  | [], _ => .error .objectEnds
  | _ :: clock, input =>
      match skipBlanks input with
      | [] => .error .objectEnds
      | b :: rest =>
          if b = Ascii.closeBrace then .ok rest
          else if first then do
            skipMembers value false clock (← value (← skipKey (b :: rest)))
          else if b = Ascii.comma then do
            skipMembers value false clock (← value (← skipKey rest))
          else .error .memberEndExpected

def skipValue : (depth : Nat) → Bytes → Except Problem Bytes
  | 0, _ => .error .tooDeep
  | depth + 1, input => do
      match ← skipHead input with
      | (.scalar, rest) => return rest
      | (.list, rest) => skipItems (skipValue depth) true rest rest
      | (.object, rest) => skipMembers (skipValue depth) true rest rest

/-- A value of any depth: a text opens no more lists and objects than it has
bytes. -/
def skip (input : Bytes) : Except Problem Bytes := skipValue (input.length + 1) input

end MuxConsole.Json
