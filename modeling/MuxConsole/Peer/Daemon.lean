import MuxConsole.Channel
import MuxConsole.Text.Utf8

/-!
# Daemons with a configuration

A daemon that holds a configuration as a text.  It hands the text out, and it is
sent texts to take its place: it either stores such a text and says so, or keeps its
own and answers something else.  It is pinged, and keeps silent otherwise.
-/

namespace MuxConsole.Peer

inductive Verdict where
  | stored
  | refused (answer : Bytes) (other : answer ≠ Utf8.encode "OK")

def Verdict.isStored : Verdict → Bool
  | .stored => true
  | .refused .. => false

structure Daemon where
  text : Bytes
  /-- On the texts to come, one by one; the ones after that are stored. -/
  verdicts : List Verdict

structure DaemonLink where
  answer : Option Frames

namespace Daemon

def verdict (daemon : Daemon) : Verdict := daemon.verdicts.headD .stored

def judge (text : Bytes) (daemon : Daemon) : Frames × Daemon :=
  let rest := daemon.verdicts.tail
  match daemon.verdict with
  | .stored => (.ofTexts ["OK"], ⟨text, rest⟩)
  | .refused answer _ => ([answer], { daemon with verdicts := rest })

def answer (request : Frames) (daemon : Daemon) : Option Frames × Daemon :=
  match request with
  | [command] =>
      if command = Utf8.encode "getptree" then (some [daemon.text], daemon)
      else if command = Utf8.encode "ping" then (some (.ofTexts ["ok"]), daemon)
      else (none, daemon)
  | [command, text] =>
      if command = Utf8.encode "setptree" then
        let (answer, daemon) := daemon.judge text
        (some answer, daemon)
      else (none, daemon)
  | _ => (none, daemon)

def send (request : Frames) (daemon : Daemon) : Sending × DaemonLink × Daemon :=
  let (answer, daemon) := daemon.answer request
  (.sent 0, ⟨answer⟩, daemon)

def receive (link : DaemonLink) (daemon : Daemon) : Receiving × DaemonLink × Daemon :=
  match link.answer with
  | some answer => (.frames answer, ⟨none⟩, daemon)
  | none => (.nothing, ⟨none⟩, daemon)

instance : Channel Daemon DaemonLink where
  connect _ _ daemon := (.ok ⟨none⟩, daemon)
  send request _ _ := send request
  receive _ := receive
  reset _ daemon := (.ok (), ⟨none⟩, daemon)

end Daemon

end MuxConsole.Peer
