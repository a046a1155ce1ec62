import MuxConsole.Json.Numeral

/-!
# Scanning JSON texts

The pieces of a JSON text, from left to right: blanks, words, texts, the head of
a value, and what stands between the items of a list and between the members of
an object.  The first thing wrong in the text is the one reported.
-/

namespace MuxConsole.Json

def isBlankByte (b : UInt8) : Bool :=
  b = Ascii.space || b = Ascii.newline || b = Ascii.tab || b = Ascii.carriageReturn

def skipBlanks (input : Bytes) : Bytes := input.dropWhile isBlankByte

def expectWord : (word input : Bytes) → Except Problem Bytes
  | [], input => .ok input
  | _ :: _, [] => .error .valueEnds
  | w :: word, b :: input => if b = w then expectWord word input else .error .wordExpected

/-! ## Texts -/

def hexUnit (input : Bytes) : Except Problem (Nat × Bytes) :=
  match input with
  | a :: b :: c :: d :: rest =>
      match Ascii.hexValue? a, Ascii.hexValue? b, Ascii.hexValue? c, Ascii.hexValue? d with
      | some a, some b, some c, some d => .ok (((a * 16 + b) * 16 + c) * 16 + d, rest)
      | _, _, _, _ => .error .badEscape
  | _ => .error .textEnds

abbrev IsLeadingSurrogate (unit : Nat) : Prop := 0xD800 ≤ unit ∧ unit ≤ 0xDBFF

abbrev IsTrailingSurrogate (unit : Nat) : Prop := 0xDC00 ≤ unit ∧ unit ≤ 0xDFFF

def surrogateGoesOn (byte : UInt8) : Bytes → Except Problem Bytes
  | [] => .error .textEnds
  | b :: rest => if b = byte then .ok rest else .error .surrogateEnds

def unicodeEscape (input : Bytes) : Except Problem (Char × Bytes) := do
  let (unit, input) ← hexUnit input
  if IsTrailingSurrogate unit then throw .loneSurrogate
  else if IsLeadingSurrogate unit then
    let input ← surrogateGoesOn Ascii.backslash input
    let input ← surrogateGoesOn Ascii.lowerU input
    let (second, input) ← hexUnit input
    if IsTrailingSurrogate second then
      return (Char.ofNat (0x10000 + (unit - 0xD800) * 0x400 + (second - 0xDC00)), input)
    else throw .loneSurrogate
  else return (Char.ofNat unit, input)

def escapeLetter? (b : UInt8) : Option Char :=
  if b = Ascii.quote then some '"'
  else if b = Ascii.backslash then some '\\'
  else if b = Ascii.slash then some '/'
  else if b = Ascii.lowerB then some '\x08'
  else if b = Ascii.lowerF then some '\x0c'
  else if b = Ascii.lowerN then some '\n'
  else if b = Ascii.lowerR then some '\r'
  else if b = Ascii.lowerT then some '\t'
  else none

def escapeBody : Bytes → Except Problem (Char × Bytes)
  | [] => .error .textEnds
  | b :: rest =>
      match escapeLetter? b with
      | some c => .ok (c, rest)
      | none => if b = Ascii.lowerU then unicodeEscape rest else .error .badEscape

/-- The bytes of a text up to its closing quote, escapes resolved.  Each round
takes something off the text, so the text itself can serve as the clock. -/
def textBytes : (clock : Bytes) → Reader Bytes
  | [], _ => .error .textEnds
  | _ :: _, [] => .error .textEnds
  | _ :: clock, b :: rest =>
      if b = Ascii.quote then .ok ([], rest)
      else if b = Ascii.backslash then do
        let (c, rest) ← escapeBody rest
        let (bytes, rest) ← textBytes clock rest
        return (String.utf8EncodeChar c ++ bytes, rest)
      else if b < Ascii.space then .error .controlCharacter
      else do
        let (bytes, rest) ← textBytes clock rest
        return (b :: bytes, rest)

def textBody (input : Bytes) : Except Problem (String × Bytes) := do
  let (bytes, rest) ← textBytes input input
  match Utf8.decode bytes with
  | .ok s => return (s, rest)
  | .error _ => throw .badUnicode

/-! ## Heads of values -/

def scanNumber (input : Bytes) : Except Problem (Number × Bytes) := do
  let (n, rest) ← numeral .valueEnds input
  return (← n.value, rest)

def scanHead (input : Bytes) : Except Problem (Head × Bytes) :=
  match skipBlanks input with
  | [] => .error .valueEnds
  | b :: rest =>
      if b = Ascii.lowerN then
        (expectWord [Ascii.lowerU, Ascii.lowerL, Ascii.lowerL] rest).map (.null, ·)
      else if b = Ascii.lowerT then
        (expectWord [Ascii.lowerR, Ascii.lowerU, Ascii.lowerE] rest).map (.bool true, ·)
      else if b = Ascii.lowerF then
        (expectWord [Ascii.lowerA, Ascii.lowerL, Ascii.lowerS, Ascii.lowerE] rest).map
          (.bool false, ·)
      else if b = Ascii.minus ∨ Ascii.isDigit b then do
        let (n, rest) ← scanNumber (b :: rest)
        return (.number n, rest)
      else if b = Ascii.quote then do
        let (s, rest) ← textBody rest
        return (.text s, rest)
      else if b = Ascii.openBracket then .ok (.list, rest)
      else if b = Ascii.openBrace then .ok (.object, rest)
      else .error .valueExpected

/-! ## Between items and members -/

inductive AtItem where
  | done (rest : Bytes)
  | item (input : Bytes)

def nextItem (first : Bool) (input : Bytes) : Except Problem AtItem :=
  match skipBlanks input with
  | [] => .error .listEnds
  | b :: rest =>
      if b = Ascii.closeBracket then .ok (.done rest)
      else if first then .ok (.item (b :: rest))
      else if b = Ascii.comma then
        match skipBlanks rest with
        | [] => .error .valueEnds
        | c :: rest =>
            if c = Ascii.closeBracket then .error .trailingComma
            else .ok (.item (c :: rest))
      else .error .itemEndExpected

inductive AtMember where
  | done (rest : Bytes)
  | member (key : String) (input : Bytes)

def nextMember (first : Bool) (input : Bytes) : Except Problem AtMember :=
  match skipBlanks input with
  | [] => .error .objectEnds
  | b :: rest =>
      if b = Ascii.closeBrace then .ok (.done rest)
      else if first then
        if b = Ascii.quote then (textBody rest).map fun (key, rest) => .member key rest
        else .error .keyIsNoText
      else if b = Ascii.comma then
        match skipBlanks rest with
        | [] => .error .valueEnds
        | c :: rest =>
            if c = Ascii.quote then (textBody rest).map fun (key, rest) => .member key rest
            else if c = Ascii.closeBrace then .error .trailingComma
            else .error .keyIsNoText
      else .error .memberEndExpected

def expectColon (input : Bytes) : Except Problem Bytes :=
  match skipBlanks input with
  | [] => .error .objectEnds
  | b :: rest => if b = Ascii.colon then .ok rest else .error .colonExpected

def whole {α : Type} (read : Reader α) (input : Bytes) : Except Problem α := do
  let (x, rest) ← read input
  match skipBlanks rest with
  | [] => return x
  | _ :: _ => throw .trailingCharacters

end MuxConsole.Json
