import MuxConsole.Json.Basic
import MuxConsole.Decimal.Shortest

/-!
# Writing JSON

The compact form has no blanks; the pretty form puts every item and member on a
line of its own, indented by two blanks per level.  Both keep the order of
members and escape only what JSON does not allow in a text.
-/

namespace MuxConsole.Json

/-! ## Texts -/

def hexDigit (n : Nat) : Char :=
  if n < 10 then Char.ofNat (48 + n) else Char.ofNat (87 + n)

def escapedChar (c : Char) : List Char :=
  if c = '"' then ['\\', '"']
  else if c = '\\' then ['\\', '\\']
  else if c = '\x08' then ['\\', 'b']
  else if c = '\x0c' then ['\\', 'f']
  else if c = '\n' then ['\\', 'n']
  else if c = '\r' then ['\\', 'r']
  else if c = '\t' then ['\\', 't']
  else if c.toNat < 0x20 then
    ['\\', 'u', '0', '0', hexDigit (c.toNat / 16), hexDigit (c.toNat % 16)]
  else [c]

def renderText (text : String) : List Char :=
  '"' :: (text.toList.flatMap escapedChar ++ ['"'])

/-! ## Numbers -/

def renderWhole (n : Int) : List Char :=
  if n < 0 then '-' :: Nat.toDigits 10 n.natAbs else Nat.toDigits 10 n.natAbs

/-- How a double's digits are laid out: positional, with at least one decimal,
when the exponent of the first digit is in the range, else with that exponent
and its sign. -/
structure DoubleLayout where
  leastPositional : Int
  greatestPositional : Int

def doubleLayout : DoubleLayout := ⟨-5, 15⟩

def DoubleLayout.render (layout : DoubleLayout) (digits : List Char)
    (exponent : Int) : List Char :=
  if layout.leastPositional ≤ exponent ∧ exponent ≤ layout.greatestPositional then
    if exponent < 0 then
      '0' :: '.' :: (List.replicate (-exponent - 1).toNat '0' ++ digits)
    else
      let ahead := exponent.toNat + 1
      let zeros := List.replicate (ahead - digits.length) '0'
      let decimals := digits.drop ahead
      digits.take ahead ++ zeros ++ '.' :: (if decimals = [] then ['0'] else decimals)
  else
    let decimals := digits.drop 1
    digits.take 1 ++ (if decimals = [] then [] else '.' :: decimals) ++
      'e' :: (if exponent < 0 then '-' else '+') :: Nat.toDigits 10 exponent.natAbs

def renderDouble (d : Decimal.Double) : List Char :=
  let magnitude :=
    if d.isZero then ['0', '.', '0']
    else
      let shortest := Decimal.shortest d
      let digits := Nat.toDigits 10 shortest.digits
      doubleLayout.render digits (shortest.exponent + digits.length - 1)
  if d.negative then '-' :: magnitude else magnitude

def doubleText (d : Decimal.Double) : String := String.ofList (renderDouble d)

def renderNumber : Number → List Char
  | .whole n _ => renderWhole n
  | .double d => renderDouble d

/-! ## The compact form -/

def renderBool (b : Bool) : List Char := if b then "true".toList else "false".toList

mutual

def render : Json → List Char
  | .null => "null".toList
  | .bool b => renderBool b
  | .number n => renderNumber n
  | .text s => renderText s
  | .list items => '[' :: renderItems items
  | .object members => '\x7b' :: renderMembers members

def renderItems : List Json → List Char
  | [] => [']']
  | [item] => render item ++ [']']
  | item :: next :: rest => render item ++ ',' :: renderItems (next :: rest)

def renderMembers : List (String × Json) → List Char
  | [] => ['\x7d']
  | [(key, value)] => renderText key ++ ':' :: (render value ++ ['\x7d'])
  | (key, value) :: next :: rest =>
      renderText key ++ ':' :: (render value ++ ',' :: renderMembers (next :: rest))

end

def compact (value : Json) : String := String.ofList (render value)

/-! ## The pretty form -/

def newLine (depth : Nat) : List Char := '\n' :: List.replicate (2 * depth) ' '

mutual

def renderPretty (depth : Nat) : Json → List Char
  | .list [] => ['[', ']']
  | .list (item :: rest) =>
      '[' :: (newLine (depth + 1) ++ renderPrettyItems depth (item :: rest))
  | .object [] => ['\x7b', '\x7d']
  | .object (first :: rest) =>
      '\x7b' :: (newLine (depth + 1) ++ renderPrettyMembers depth (first :: rest))
  | .null => "null".toList
  | .bool b => renderBool b
  | .number n => renderNumber n
  | .text s => renderText s

def renderPrettyItems (depth : Nat) : List Json → List Char
  | [] => newLine depth ++ [']']
  | [item] => renderPretty (depth + 1) item ++ (newLine depth ++ [']'])
  | item :: next :: rest =>
      renderPretty (depth + 1) item ++
        ',' :: (newLine (depth + 1) ++ renderPrettyItems depth (next :: rest))

def renderPrettyMembers (depth : Nat) : List (String × Json) → List Char
  | [] => newLine depth ++ ['\x7d']
  | [(key, value)] =>
      renderText key ++ ':' :: ' ' ::
        (renderPretty (depth + 1) value ++ (newLine depth ++ ['\x7d']))
  | (key, value) :: next :: rest =>
      renderText key ++ ':' :: ' ' ::
        (renderPretty (depth + 1) value ++
          ',' :: (newLine (depth + 1) ++ renderPrettyMembers depth (next :: rest)))

end

def pretty (value : Json) : String := String.ofList (renderPretty 0 value)

end MuxConsole.Json
