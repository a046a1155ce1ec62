/-!
# Columns of text

Texts filled up with blanks to a number of characters.  A text that is longer
already stays as it is.
-/

namespace MuxConsole.Text

def leftIn (width : Nat) (text : String) : String :=
  String.ofList (text.toList ++ List.replicate (width - text.length) ' ')

def rightIn (width : Nat) (text : String) : String :=
  String.ofList (List.replicate (width - text.length) ' ' ++ text.toList)

end MuxConsole.Text
