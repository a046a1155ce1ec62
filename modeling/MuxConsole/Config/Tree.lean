import MuxConsole.Reply

/-!
# Configuration trees

The running configuration is a JSON object that passes through the console
untouched.  Only the sections that a view needs are ever looked into.
-/

namespace MuxConsole.Config

structure Tree where
  members : Json.Members

namespace Tree

def empty : Tree := ⟨[]⟩

instance : Inhabited Tree := ⟨empty⟩

def toJson (tree : Tree) : Json := .object tree.members

def ofJson : Json → Except Fault Tree
  | .object members => .ok ⟨members⟩
  | _ => .error (.malformed "config" .notATree)

def decode (command : String) (frame : Bytes) : Except Fault Tree := do
  ofJson (← Reply.json command frame)

def put (tree : Tree) (name : String) (value : Json) : Tree :=
  ⟨Json.Members.put name value tree.members⟩

def sectionMembers (tree : Tree) (name : String) : Except Fault Json.Members :=
  match Json.Members.get? name tree.members with
  | some (.object members) => .ok members
  | _ => .error (.missingSection name)

def encode (tree : Tree) : Bytes := Utf8.encodeChars tree.toJson.render

end Tree

end MuxConsole.Config
