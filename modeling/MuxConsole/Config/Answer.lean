import MuxConsole.Config.Tree

/-!
# Answers to the config command

Old releases answer with the whole configuration, newer ones with the list of
inputs.  Nothing in the reply says which it is, so the keys decide.
-/

namespace MuxConsole.Config

inductive Answer where
  | inputs (idents : List String)
  | tree (tree : Tree)

def treeSections : List String :=
  ["general", "remotecontrol", "services", "subchannels", "components"]

namespace Answer

def inputIdent : Json → Except Fault String
  | .text ident => .ok ident
  | item => .error (.malformed "config" (.inputIsNoText item))

def looksLikeTree (members : Json.Members) : Bool :=
  treeSections.any fun name => (Json.Members.get? name members).isSome

def ofJson (j : Json) : Except Fault Answer :=
  match j.get? "config" with
  | some (.list items) => (items.mapM inputIdent).map .inputs
  | some (.object members) => .ok (.tree ⟨members⟩)
  | some value => .error (.malformed "config" (.configValue value))
  | none =>
      match j with
      | .object members =>
          if looksLikeTree members then .ok (.tree ⟨members⟩)
          else .error (.malformed "config" .neitherShape)
      | _ => .error (.malformed "config" .neitherShape)

def decode (payload : Bytes) : Except Fault Answer := do
  ofJson (← Reply.json "config" payload)

end Answer

end MuxConsole.Config
