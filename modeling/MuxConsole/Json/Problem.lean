import MuxConsole.Json.Render
import MuxConsole.Text.Quoted

/-!
# What is wrong with a JSON text

The reasons for which a text is no JSON, or is JSON of the wrong shape, and the
sentence for each.
-/

namespace MuxConsole.Json

inductive Head where
  | null
  | bool (b : Bool)
  | number (n : Number)
  | text (s : String)
  | list
  | object
deriving DecidableEq

def Head.describe : Head → String
  | .null => "null"
  | .bool true => "boolean \x60true\x60"
  | .bool false => "boolean \x60false\x60"
  | .number (.whole n _) => s!"integer \x60{n}\x60"
  | .number (.double d) => s!"floating point \x60{doubleText d}\x60"
  | .text s => "string " ++ Text.quoted s
  | .list => "sequence"
  | .object => "map"

def head : Json → Head
  | .null => .null
  | .bool b => .bool b
  | .number n => .number n
  | .text s => .text s
  | .list _ => .list
  | .object _ => .object

inductive Problem where
  | valueExpected
  | wordExpected
  | colonExpected
  | memberEndExpected
  | itemEndExpected
  | valueEnds
  | listEnds
  | objectEnds
  | textEnds
  | keyIsNoText
  | trailingComma
  | trailingCharacters
  | badNumber
  | numberTooLarge
  | badEscape
  | loneSurrogate
  | surrogateEnds
  | controlCharacter
  | badUnicode
  | tooDeep
  | wrongType (head : Head) (wanted : String)
  | wrongValue (n : Int) (wanted : String)
  | missing (field : String)
  | duplicate (field : String)
  | wrongLength (length : Nat) (wanted : String)
  | unknownName (name : String) (known : List String)
  | noAlternative (type : String)
deriving DecidableEq

private def ticked (text : String) : String := "\x60" ++ text ++ "\x60"

def Problem.message : Problem → String
  | .valueExpected => "expected value"
  | .wordExpected => "expected ident"
  | .colonExpected => "expected \x60:\x60"
  | .memberEndExpected => "expected \x60,\x60 or \x60\x7d\x60"
  | .itemEndExpected => "expected \x60,\x60 or \x60]\x60"
  | .valueEnds => "EOF while parsing a value"
  | .listEnds => "EOF while parsing a list"
  | .objectEnds => "EOF while parsing an object"
  | .textEnds => "EOF while parsing a string"
  | .keyIsNoText => "key must be a string"
  | .trailingComma => "trailing comma"
  | .trailingCharacters => "trailing characters"
  | .badNumber => "invalid number"
  | .numberTooLarge => "number out of range"
  | .badEscape => "invalid escape"
  | .loneSurrogate => "lone leading surrogate in hex escape"
  | .surrogateEnds => "unexpected end of hex escape"
  | .controlCharacter =>
      "control character (\\u0000-\\u001F) found while parsing a string"
  | .badUnicode => "invalid unicode code point"
  | .tooDeep => "recursion limit exceeded"
  | .wrongType head wanted =>
      s!"invalid type: {head.describe}, expected {wanted}"
  | .wrongValue n wanted => s!"invalid value: integer \x60{n}\x60, expected {wanted}"
  | .missing field => "missing field " ++ ticked field
  | .duplicate field => "duplicate field " ++ ticked field
  | .wrongLength length wanted => s!"invalid length {length}, expected {wanted}"
  | .unknownName name known =>
      "unknown variant " ++ ticked name ++ ", expected one of " ++
        ", ".intercalate (known.map ticked)
  | .noAlternative type => s!"data did not match any variant of untagged enum {type}"

end MuxConsole.Json
