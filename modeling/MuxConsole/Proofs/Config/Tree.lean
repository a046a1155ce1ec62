import MuxConsole.Config.Tree
import MuxConsole.Proofs.Json.RoundTrip

/-!
# Trees survive their rendering

A tree that is nested no deeper than the reader goes and has whole numbers only is
read from every text of it, and among those is the one it is written as.
-/

namespace MuxConsole.Config.Tree

open Json

structure Portable (tree : Tree) : Prop where
  nested : Nested greatestDepth tree.toJson
  integral : Integral tree.toJson

variable {tree : Tree} {frame : Bytes}

@[simp] theorem ofJson_eq_ok {j : Json} : ofJson j = .ok tree ↔ j = tree.toJson := by
  cases tree
  cases j <;> simp [ofJson, toJson]

theorem decode_of_parse (parsed : parse frame = .ok tree.toJson) (command : String) :
    decode command frame = .ok tree := by
  rw [decode, Reply.json, parsed]
  rfl

theorem decode_of_isTextOf (h : IsTextOf frame tree.toJson) (command : String) :
    decode command frame = .ok tree :=
  decode_of_parse (parse_of_isTextOf h) command

theorem encode_eq (tree : Tree) : tree.encode = Utf8.encode tree.toJson.compact :=
  (encode_compact tree.toJson).symm

theorem Portable.isTextOf_encode (portable : tree.Portable) : IsTextOf tree.encode tree.toJson :=
  isTextOf_rendered portable.nested portable.integral

theorem decode_encode (portable : tree.Portable) (command : String) :
    decode command tree.encode = .ok tree :=
  decode_of_isTextOf portable.isTextOf_encode command

theorem portable_of_isTextOf (h : IsTextOf frame tree.toJson) : tree.Portable where
  nested := nested_of_parse (parse_of_isTextOf h)
  integral := h.integral

theorem Portable.put (h : tree.Portable) {name : String} {value : Json}
    (nested : Nested (greatestDepth - 1) value) (integral : Integral value) :
    (tree.put name value).Portable :=
  ⟨h.nested.put nested, h.integral.put integral⟩

end MuxConsole.Config.Tree
