import MuxConsole.Identity

/-!
# Uptime

How long the encoder of an input has been running: in seconds, or as whatever
text the server has for it.
-/

namespace MuxConsole.Input

inductive Uptime where
  | seconds (n : UInt64)
  | text (s : String)
deriving DecidableEq, Repr

namespace Uptime

def unknown : Uptime := .text unknownText

def display : Uptime → String
  | .seconds n => toString n.toNat
  | .text s => s

def ofJson (j : Json) : Except Json.Problem Uptime :=
  match j with
  | .number (.whole n _) =>
      match (Json.Word.ofInt? n : Option UInt64) with
      | some n => .ok (.seconds n)
      | none => .error (.noAlternative "Uptime")
  | .text s => .ok (.text s)
  | _ => .error (.noAlternative "Uptime")

def schema : Json.Schema Uptime := .ofValue ofJson

def toJson : Uptime → Json
  | .seconds n => .ofWord n
  | .text s => .text s

end Uptime

end MuxConsole.Input
