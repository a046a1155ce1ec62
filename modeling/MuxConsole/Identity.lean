import MuxConsole.Json.Schema

/-!
# Identities

What a server says about itself: the name of its service and a version, which
old releases leave out.
-/

namespace MuxConsole

def unknownText : String := "unknown"

structure Identity where
  service : String
  version : String
deriving DecidableEq, Repr

namespace Identity

def matchesName (identity : Identity) (beginning : String) : Bool :=
  beginning.toList.isPrefixOf identity.service.toList

def display (identity : Identity) : String :=
  s!"{identity.service} ({identity.version})"

def schema : Json.Schema Identity :=
  .record "ServiceIdentity" ⟨"", unknownText⟩ [
    .needs "service" .string fun service identity => { identity with service },
    .allows "version" .string fun version identity => { identity with version }]

def toJson (identity : Identity) : Json :=
  .object [("service", .text identity.service), ("version", .text identity.version)]

end Identity

end MuxConsole
