import MuxConsole.Input.Stat
import MuxConsole.Log
import MuxConsole.Reply

/-!
# Snapshots

The statistics of all inputs at one moment, sorted by identifier.  They are read
one input after the other, so the first input that cannot be read is the one
complained about; a state that cannot be decoded is only noted.
-/

namespace MuxConsole.Input

abbrev Snapshot := KeyTable Stat

namespace Snapshot

def toJson (snapshot : Snapshot) : Json :=
  .object (snapshot.entries.map fun (ident, stat) => (ident, stat.toJson))

def schema : Json.Schema Snapshot := .table Stat.schema

/-! ## Reading a reply -/

def replySchema : Json.Schema (KeyTable Json) :=
  .record "ValuesReply" .empty [.needs "values" (.table .json) fun values _ => values]

def entrySchema : Json.Schema Stat :=
  .record "InputEntry" Stat.start [.needs "inputstat" Stat.schema fun stat _ => stat]

def decodeState (ident : String) (stat : Stat) : Stat × Log :=
  if stat.report = unknownText then (stat, [])
  else
    match State.decode? stat.report with
    | some state => ({ stat with state := some state }, [])
    | none => (stat, [.unreadableState stat.report ident])

def readEntries : List (String × Json) → Except Fault (List (String × Stat)) × Log
  | [] => (.ok [], [])
  | (ident, entry) :: rest =>
      match entrySchema.fromJson entry with
      | .error problem => (.error (.malformed "values" (.input ident problem)), [])
      | .ok stat =>
          let (stat, log) := decodeState ident stat
          let (stats, more) := readEntries rest
          (stats.map ((ident, stat) :: ·), log ++ more)

/-- The snapshot that a reply to the values command carries, and what there is
to note about it. -/
def decode (payload : Bytes) : Except Fault Snapshot × Log :=
  match Reply.record replySchema "values" payload with
  | .error fault => (.error fault, [])
  | .ok values =>
      let (stats, log) := readEntries values.entries
      (stats.map KeyTable.ofList, log)

end Snapshot

end MuxConsole.Input
