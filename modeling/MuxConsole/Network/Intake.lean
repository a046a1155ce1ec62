import MuxConsole.Channel
import MuxConsole.Text.Ascii
import MuxConsole.Text.Blank

/-!
# Taking in a stream reply

A stream server writes a welcome line, then its answer, and ends its side.  What
it writes comes in segments, cut anywhere.  The reply is the welcome line without
the blanks it ends in, and the answer unless it is empty.
-/

namespace MuxConsole.Network

structure Segment where
  after : Nat
  bytes : Bytes
deriving DecidableEq, Repr

/-- What has been taken in: a part of the welcome line, or all of it and a part
of the answer. -/
inductive Intake where
  | welcome (read : Bytes)
  | answer (line : String) (read : Bytes)
deriving DecidableEq, Repr

namespace Intake

def start : Intake := .welcome []

def splitLine : Bytes → Option (Bytes × Bytes)
  | [] => none
  | b :: rest =>
      if b = Ascii.newline then some ([b], rest)
      else (splitLine rest).map fun (line, rest) => (b :: line, rest)

def decodeLine (line : Bytes) : Except Fault String :=
  (Utf8.decode line).mapError fun fault => .io fault.message

def feed (bytes : Bytes) : Intake → Except Fault Intake
  | .welcome read =>
      match splitLine bytes with
      | none => .ok (.welcome (read ++ bytes))
      | some (line, rest) => do return .answer (← decodeLine (read ++ line)) rest
  | .answer line read => .ok (.answer line (read ++ bytes))

def welcomeFrame (line : String) : Bytes := Utf8.encodeChars (Text.trimEnd line.toList)

def finish (endpoint : Endpoint) : Intake → Except Fault Frames
  | .welcome [] =>
      .error (.transport s!"{endpoint.display} closed the connection without a welcome line")
  | .welcome read => do return [welcomeFrame (← decodeLine read)]
  | .answer line [] => .ok [welcomeFrame line]
  | .answer line read => .ok [welcomeFrame line, read]

def toReceiving : Except Fault Frames → Receiving
  | .ok frames => .frames frames
  | .error fault => .failed fault

/-- Takes in segments and then the end, which comes some time after the last of
them, if at all; what would come after the limit is not waited for. -/
def receive (endpoint : Endpoint) (ends : Option Nat) :
    (limit : Nat) → Intake → List Segment → Receiving
  | limit, intake, [] =>
      match ends with
      | none => .nothing
      | some after =>
          if after ≤ limit then toReceiving (finish endpoint intake) else .nothing
  | limit, intake, segment :: rest =>
      if segment.after ≤ limit then
        match feed segment.bytes intake with
        | .error fault => .failed fault
        | .ok intake => receive endpoint ends (limit - segment.after) intake rest
      else .nothing

end Intake

end MuxConsole.Network
