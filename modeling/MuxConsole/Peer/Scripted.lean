import MuxConsole.Channel

/-!
# Scripted peers

A peer that follows a script: each request takes the next item, which says what
comes back and when.  Past the end of its script it keeps silent.
-/

namespace MuxConsole.Peer

inductive Item where
  | reply (delay : Nat) (frames : Frames)
  | transportFailure (delay : Nat) (message : String)
  | ioFailure (delay : Nat) (message : String)
  /-- The request cannot even be sent. -/
  | sendFailure (message : String)
  | silent
  /-- No reply, and then the channel cannot be reset. -/
  | resetFailure (message : String)
deriving DecidableEq, Repr

structure Scripted where
  /-- Why nobody can connect, if so. -/
  unreachable : Option String
  script : List Item
  sent : List Frames
  resets : Nat
deriving DecidableEq, Repr

/-- Our end: the item that the last request took and that has not been received,
and why the channel cannot be reset, if so. -/
structure ScriptedLink where
  current : Option Item
  resetFault : Option String
deriving DecidableEq, Repr

namespace Scripted

def ofScript (script : List Item) : Scripted := ⟨none, script, [], 0⟩

def connect (endpoint : Endpoint) (peer : Scripted) : Except Fault ScriptedLink × Scripted :=
  match peer.unreachable with
  | some message => (.error (.connect endpoint.display message), peer)
  | none => (.ok ⟨none, none⟩, peer)

def next (peer : Scripted) : Item := peer.script.headD .silent

def send (frames : Frames) (link : ScriptedLink) (peer : Scripted) :
    Sending × ScriptedLink × Scripted :=
  let rest := peer.script.tail
  match peer.next with
  | .sendFailure message => (.failed (.transport message), link, { peer with script := rest })
  | item =>
      (.sent 0, { link with current := some item },
        { peer with script := rest, sent := peer.sent ++ [frames] })

def receive (limit : Nat) (link : ScriptedLink) (peer : Scripted) :
    Receiving × ScriptedLink × Scripted :=
  let rest := { link with current := none }
  match link.current with
  | some (.reply delay frames) =>
      (if delay ≤ limit then .frames frames else .nothing, rest, peer)
  | some (.transportFailure delay message) =>
      (if delay ≤ limit then .failed (.transport message) else .nothing, rest, peer)
  | some (.ioFailure delay message) =>
      (if delay ≤ limit then .failed (.io message) else .nothing, rest, peer)
  | some (.resetFailure message) =>
      (.nothing, { rest with resetFault := some message }, peer)
  | some .silent | some (.sendFailure _) | none => (.nothing, rest, peer)

def reset (link : ScriptedLink) (peer : Scripted) :
    Except Fault Unit × ScriptedLink × Scripted :=
  let peer := { peer with resets := peer.resets + 1 }
  match link.resetFault with
  | some message => (.error (.transport message), ⟨none, none⟩, peer)
  | none => (.ok (), ⟨none, none⟩, peer)

instance : Channel Scripted ScriptedLink where
  connect endpoint _ := connect endpoint
  send frames _ := send frames
  receive := receive
  reset := reset

end Scripted

end MuxConsole.Peer
