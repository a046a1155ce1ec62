import MuxConsole.Command.Run
import MuxConsole.Network.Link

/-!
# The program

Reads the files that the words of the command line name, runs the command and
prints what comes of it.  It is linked with no sockets, so every address is
unreachable.
-/

namespace MuxConsole

def readFileState (path : String) : IO FileState := do
  try
    let bytes ← IO.FS.readBinFile path
    return .content bytes.toList
  catch
    | .noFileOrDirectory .. => return .missing
    | .inappropriateType .. => return .unreadable FileState.directoryReason
    | error => return .unreadable error.toString

def filesOf (words : List String) : IO (String → FileState) := do
  match Command.Invocation.ofWords words with
  | .error _ => return fun _ => .missing
  | .ok invocation =>
      let paths := invocation.options.settingsPath.toList ++
        match invocation.command with
        | .write path => [path]
        | _ => []
      let found ← paths.mapM fun path => do return (path, ← readFileState path)
      return fun path => ((found.find? fun entry => entry.1 = path).map (·.2)).getD .missing

end MuxConsole

open MuxConsole in
def main (words : List String) : IO UInt32 := do
  let files ← filesOf words
  let (exit, _) := Command.runProgram Network.Link words files Network.offline
  IO.print exit.stdout
  IO.eprint exit.stderr
  return exit.code.toUInt32
