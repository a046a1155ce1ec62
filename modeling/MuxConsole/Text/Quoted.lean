import MuxConsole.Text.Shown

/-!
# Quoted texts

A text between double quotes, for messages.  Quotes and backslashes get a
backslash, the four usual controls their letter, and every other character that
is not shown as it is its code point in hexadecimal.
-/

namespace MuxConsole.Text

def quotedChar (c : Char) : List Char :=
  if c = '"' then ['\\', '"']
  else if c = '\\' then ['\\', '\\']
  else if c = '\n' then ['\\', 'n']
  else if c = '\r' then ['\\', 'r']
  else if c = '\t' then ['\\', 't']
  else if c = '\x00' then ['\\', '0']
  else if isShown c then [c]
  else ['\\', 'u', '\x7b'] ++ Nat.toDigits 16 c.toNat ++ ['\x7d']

def quoted (text : String) : String :=
  String.ofList ('"' :: (text.toList.flatMap quotedChar ++ ['"']))

end MuxConsole.Text
