import MuxConsole.Fault
import MuxConsole.Json.Schema

/-!
# Replies

Which frame of a reply carries the answer, and what it says as a text or as
JSON.  A stream server puts its welcome line before the answer; a queue server
answers with a single frame.
-/

namespace MuxConsole.Reply

def single (command : String) (frames : Frames) : Except Fault Bytes :=
  match frames with
  | [frame] => .ok frame
  | _ => .error (.malformed command (.frameCount frames.length))

def body (wire : Wire) (command : String) (frames : Frames) : Except Fault Bytes :=
  match wire, frames with
  | _, [frame] => .ok frame
  | .stream, [_, frame] => .ok frame
  | .stream, _ => .error (.malformed command (.streamFrameCount frames.length))
  | .queue, _ => .error (.malformed command (.frameCountOf frames))

def text (command : String) (frame : Bytes) : Except Fault String :=
  (Utf8.decode frame).mapError fun fault => .malformed command (.notText fault)

def texts (command : String) (frames : Frames) : Except Fault (List String) :=
  frames.mapM (text command)

def record {α : Type} (schema : Json.Schema α) (command : String) (frame : Bytes) :
    Except Fault α :=
  (schema.parse frame).mapError fun problem => .malformed command (.json problem)

def json (command : String) (frame : Bytes) : Except Fault Json :=
  (Json.parse frame).mapError fun problem => .malformed command (.json problem)

end MuxConsole.Reply
