import MuxConsole.Fault
import MuxConsole.Json.Schema

/-!
# Remote control modules

A module has parameters, each with a name and a value, in the order of the
server.  A parameter is listed as its name, a colon, a blank and its value; the
first colon followed by a blank is the one that separates them.
-/

namespace MuxConsole.Remote

structure Parameter where
  name : String
  value : String
deriving DecidableEq, Repr

structure Module where
  name : String
  parameters : List Parameter
deriving DecidableEq, Repr

/-! ## Lines -/

def splitLine : List Char → Option (List Char × List Char)
  | [] => none
  | [_] => none
  | c :: d :: rest =>
      if c = ':' ∧ d = ' ' then some ([], rest)
      else (splitLine (d :: rest)).map fun (name, value) => (c :: name, value)

namespace Parameter

def line (parameter : Parameter) : String := parameter.name ++ ": " ++ parameter.value

def ofLine (line : String) : Except Fault Parameter :=
  match splitLine line.toList with
  | some (name, value) => .ok ⟨String.ofList name, String.ofList value⟩
  | none => .error (.malformed "show" (.noSeparator line))

def schema : Json.Schema Parameter :=
  .record "RcParameter" ⟨"", ""⟩ [
    .needs "name" .string fun name parameter => { parameter with name },
    .needs "value" .string fun value parameter => { parameter with value }]

def toJson (parameter : Parameter) : Json :=
  .object [("name", .text parameter.name), ("value", .text parameter.value)]

end Parameter

namespace Module

def schema : Json.Schema Module :=
  .record "RcModule" ⟨"", []⟩ [
    .needs "name" .string fun name module => { module with name },
    .needs "parameters" (.list Parameter.schema) fun parameters module =>
      { module with parameters }]

def toJson (module : Module) : Json :=
  .object [("name", .text module.name),
    ("parameters", .list (module.parameters.map Parameter.toJson))]

def parameter? (module : Module) (name : String) : Option String :=
  (module.parameters.find? fun parameter => parameter.name = name).map (·.value)

end Module

end MuxConsole.Remote
