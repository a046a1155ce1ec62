import MuxConsole.Text.Quoted
import MuxConsole.Text.Utf8

/-!
# Frames

A request and a reply are lists of frames, each a run of bytes.
-/

namespace MuxConsole

abbrev Frames := List Bytes

namespace Frames

def ofTexts (texts : List String) : Frames := texts.map Utf8.encode

def command (frames : Frames) : String :=
  match frames with
  | [] => ""
  | first :: _ => Utf8.lenient first

def describe (frames : Frames) : String :=
  "[" ++ ", ".intercalate (frames.map fun frame => Text.quoted (Utf8.lenient frame)) ++ "]"

end Frames

end MuxConsole
