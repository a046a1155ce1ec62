/-!
# Lines

Texts made of lines, each with a newline after it.
-/

namespace MuxConsole.Text

def unlines (lines : List String) : String :=
  String.join (lines.map fun line => line ++ "\n")

end MuxConsole.Text
