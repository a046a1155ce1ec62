/-!
# UTF-8

Texts as bytes and back.  Bytes are read by a small machine that knows, between
two bytes of a character, how many more it owes and which range the next one
has to come from.  A byte outside the range ends the character there: the bytes
read so far are one bad sequence and the byte starts anew.  The strict reader
reports the first bad sequence; the lenient one puts a replacement character in
the place of each.
-/

namespace MuxConsole

abbrev Bytes := List UInt8

end MuxConsole

namespace MuxConsole.Utf8

def encodeChars (text : List Char) : Bytes := text.flatMap String.utf8EncodeChar

def encode (text : String) : Bytes := encodeChars text.toList

theorem encodeChars_append (left right : List Char) :
    encodeChars (left ++ right) = encodeChars left ++ encodeChars right := by
  simp [encodeChars]

/-! ## One byte at a time -/

/-- A character begun but not finished: the bytes still owed, the range of the
next one, the bits and the number of bytes read. -/
structure Begun where
  owed : Nat
  low : UInt8
  high : UInt8
  bits : Nat
  read : Nat
deriving DecidableEq, Repr

inductive Step where
  | char (c : Char)
  | begun (state : Begun)
  | bad
deriving DecidableEq, Repr

def start (b : UInt8) : Step :=
  if b < 0x80 then .char (Char.ofNat b.toNat)
  else if b < 0xC2 then .bad
  else if b < 0xE0 then .begun ⟨1, 0x80, 0xBF, b.toNat - 0xC0, 1⟩
  else if b = 0xE0 then .begun ⟨2, 0xA0, 0xBF, 0, 1⟩
  else if b = 0xED then .begun ⟨2, 0x80, 0x9F, 0xD, 1⟩
  else if b < 0xF0 then .begun ⟨2, 0x80, 0xBF, b.toNat - 0xE0, 1⟩
  else if b = 0xF0 then .begun ⟨3, 0x90, 0xBF, 0, 1⟩
  else if b < 0xF4 then .begun ⟨3, 0x80, 0xBF, b.toNat - 0xF0, 1⟩
  else if b = 0xF4 then .begun ⟨3, 0x80, 0x8F, 4, 1⟩
  else .bad

def Begun.next (state : Begun) (b : UInt8) : Step :=
  if state.low ≤ b ∧ b ≤ state.high then
    let bits := state.bits * 64 + (b.toNat - 0x80)
    if state.owed ≤ 1 then .char (Char.ofNat bits)
    else .begun ⟨state.owed - 1, 0x80, 0xBF, bits, state.read + 1⟩
  else .bad

/-! ## Strict reading -/

inductive Fault where
  /-- `length` bytes from `index` on begin no character. -/
  | invalid (length index : Nat)
  /-- The text ends inside the character begun at `index`. -/
  | incomplete (index : Nat)
deriving DecidableEq, Repr

def Fault.message : Fault → String
  | .invalid length index =>
      s!"invalid utf-8 sequence of {length} bytes from index {index}"
  | .incomplete index => s!"incomplete utf-8 byte sequence from index {index}"

/-- Reads on from `state`; `index` is where the current character began. -/
def decodeFrom (index : Nat) : Option Begun → Bytes → Except Fault (List Char)
  | none, [] => .ok []
  | some _, [] => .error (.incomplete index)
  | none, b :: rest =>
      match start b with
      | .char c => (decodeFrom (index + 1) none rest).map (c :: ·)
      | .begun state => decodeFrom index (some state) rest
      | .bad => .error (.invalid 1 index)
  | some state, b :: rest =>
      match state.next b with
      | .char c => (decodeFrom (index + state.read + 1) none rest).map (c :: ·)
      | .begun state => decodeFrom index (some state) rest
      | .bad => .error (.invalid state.read index)

def decode (bytes : Bytes) : Except Fault String :=
  (decodeFrom 0 none bytes).map String.ofList

/-! ## Lenient reading -/

def replacement : Char := '\uFFFD'

def lenientFrom : Option Begun → Bytes → List Char
  | none, [] => []
  | some _, [] => [replacement]
  | none, b :: rest =>
      match start b with
      | .char c => c :: lenientFrom none rest
      | .begun state => lenientFrom (some state) rest
      | .bad => replacement :: lenientFrom none rest
  | some state, b :: rest =>
      match state.next b with
      | .char c => c :: lenientFrom none rest
      | .begun state => lenientFrom (some state) rest
      | .bad =>
          replacement ::
            match start b with
            | .char c => c :: lenientFrom none rest
            | .begun state => lenientFrom (some state) rest
            | .bad => replacement :: lenientFrom none rest

def lenient (bytes : Bytes) : String := String.ofList (lenientFrom none bytes)

end MuxConsole.Utf8
