import MuxConsole.Json.Read
import MuxConsole.Json.Skip
import MuxConsole.Json.Word
import MuxConsole.KeyTable

/-!
# Typed reading

A schema reads a value of a type in two ways: from the text, while it is being
scanned, and from a JSON value.  A record is an object with one slot per field,
or the list of its fields in order; members that no slot asks for are skipped.
-/

namespace MuxConsole.Json

structure Schema (α : Type) where
  fromText : (depth : Nat) → Reader α
  fromJson : Json → Except Problem α

namespace Schema

variable {α ρ : Type}

def parse (schema : Schema α) (input : Bytes) : Except Problem α :=
  whole (schema.fromText greatestDepth) input

def map {β : Type} (f : α → β) (schema : Schema α) : Schema β where
  fromText depth input := (schema.fromText depth input).map fun (x, rest) => (f x, rest)
  fromJson j := (schema.fromJson j).map f

/-! ## Scalars -/

def ofHead (read : Head → Except Problem α) : Schema α where
  fromText _ input := do
    let (h, rest) ← scanHead input
    return (← read h, rest)
  fromJson j := read (head j)

def readString : Head → Except Problem String
  | .text s => .ok s
  | h => .error (.wrongType h "a string")

def string : Schema String := ofHead readString

def readWord [Word α] : Head → Except Problem α
  | .number (.whole n _) =>
      match Word.ofInt? n with
      | some x => .ok x
      | none => .error (.wrongValue n (Word.name α))
  | h => .error (.wrongType h (Word.name α))

def word [Word α] : Schema α := ofHead readWord

def readNumber : Head → Except Problem Number
  | .number n => .ok n
  | h => .error (.wrongType h "a JSON number")

def number : Schema Number := ofHead readNumber

/-! ## Values of values -/

def ofValue (read : Json → Except Problem α) : Schema α where
  fromText depth input := do
    let (j, rest) ← value depth input
    return (← read j, rest)
  fromJson := read

def json : Schema Json := ofValue .ok

def optional (schema : Schema α) : Schema (Option α) where
  fromText depth input :=
    match scanHead input with
    | .ok (.null, rest) => .ok (none, rest)
    | _ => (schema.fromText depth input).map fun (x, rest) => (some x, rest)
  fromJson
    | .null => .ok none
    | j => (schema.fromJson j).map some

def list (schema : Schema α) : Schema (List α) where
  fromText depth input := do
    match ← scanHead input with
    | (.list, rest) =>
        match depth with
        | 0 => throw .tooDeep
        | depth + 1 => items (schema.fromText depth) rest
    | (h, _) => throw (.wrongType h "a sequence")
  fromJson
    | .list xs => xs.mapM schema.fromJson
    | j => .error (.wrongType (head j) "a sequence")

def table (schema : Schema α) : Schema (KeyTable α) where
  fromText depth input := do
    match ← scanHead input with
    | (.object, rest) =>
        match depth with
        | 0 => throw .tooDeep
        | depth + 1 =>
            let (entries, rest) ← members (schema.fromText depth) rest
            return (KeyTable.ofList entries, rest)
    | (h, _) => throw (.wrongType h "a map")
  fromJson
    | .object entries => do
        let entries ← entries.mapM fun (key, j) => do return (key, ← schema.fromJson j)
        return KeyTable.ofList entries
    | j => .error (.wrongType (head j) "a map")

end Schema

/-! ## Records -/

/-- A field of a record: its key, whether it has to be there, and how its value
goes into the record. -/
structure Slot (ρ : Type) where
  key : String
  needed : Bool
  fill : Schema (ρ → ρ)

namespace Slot

variable {α ρ : Type}

def needs (key : String) (schema : Schema α) (set : α → ρ → ρ) : Slot ρ :=
  ⟨key, true, schema.map set⟩

/-- A field that keeps its initial value where it is absent. -/
def allows (key : String) (schema : Schema α) (set : α → ρ → ρ) : Slot ρ :=
  ⟨key, false, schema.map set⟩

end Slot

namespace Record

variable {ρ : Type}

def missing? (slots : List (Slot ρ)) (seen : List String) : Option Problem :=
  (slots.find? fun slot => slot.needed && !seen.contains slot.key).map
    fun slot => .missing slot.key

def wanted (name : String) (slots : List (Slot ρ)) : String :=
  let plural := if slots.length = 1 then "element" else "elements"
  s!"struct {name} with {slots.length} {plural}"

def tooShort? (wanted : String) (index : Nat) (slots : List (Slot ρ)) : Option Problem :=
  (slots.findIdx? (·.needed)).map fun i => .wrongLength (index + i) wanted

def listEnd (input : Bytes) : Except Problem Bytes :=
  match skipBlanks input with
  | [] => .error .listEnds
  | b :: rest =>
      if b = Ascii.closeBracket then .ok rest
      else if b = Ascii.comma then
        match skipBlanks rest with
        | [] => .error .trailingCharacters
        | c :: _ =>
            if c = Ascii.closeBracket then .error .trailingComma
            else .error .trailingCharacters
      else .error .trailingCharacters

/-! ### From text -/

/-- The members from a member on, with the closing brace; `seen` are the keys of
the slots filled so far.  The clock is the text. -/
def fillMembers (slots : List (Slot ρ)) (depth : Nat) (first : Bool) (seen : List String)
    (record : ρ) : (clock : Bytes) → Reader ρ
  | [], _ => .error .objectEnds
  | _ :: clock, input => do
      match ← nextMember first input with
      | .done rest =>
          match missing? slots seen with
          | some problem => throw problem
          | none => return (record, rest)
      | .member key input =>
          match slots.find? (·.key = key) with
          | none =>
              let input ← expectColon input
              let input ← skip input
              fillMembers slots depth false seen record clock input
          | some slot =>
              if seen.contains key then throw (.duplicate key)
              else
                let input ← expectColon input
                let (set, input) ← slot.fill.fromText depth input
                fillMembers slots depth false (key :: seen) (set record) clock input

def fillItems (wanted : String) (depth index : Nat) (record : ρ) :
    List (Slot ρ) → Reader ρ
  | [], input => do return (record, ← listEnd input)
  | slot :: slots, input => do
      match ← nextItem (index = 0) input with
      | .done rest =>
          match tooShort? wanted index (slot :: slots) with
          | some problem => throw problem
          | none => return (record, rest)
      | .item input =>
          let (set, input) ← slot.fill.fromText depth input
          fillItems wanted depth (index + 1) (set record) slots input

/-! ### From a value -/

def fillFromMembers (slots : List (Slot ρ)) (seen : List String) (record : ρ) :
    Members → Except Problem ρ
  | [] =>
      match missing? slots seen with
      | some problem => .error problem
      | none => .ok record
  | (key, j) :: rest =>
      match slots.find? (·.key = key) with
      | none => fillFromMembers slots seen record rest
      | some slot =>
          if seen.contains key then .error (.duplicate key)
          else do
            let set ← slot.fill.fromJson j
            fillFromMembers slots (key :: seen) (set record) rest

def fillFromItems (wanted : String) (length index : Nat) (record : ρ) :
    List (Slot ρ) → List Json → Except Problem ρ
  | [], [] => .ok record
  | [], _ :: _ => .error (.wrongLength length "fewer elements in array")
  | slot :: slots, [] =>
      match tooShort? wanted index (slot :: slots) with
      | some problem => .error problem
      | none => .ok record
  | slot :: slots, j :: rest => do
      let set ← slot.fill.fromJson j
      fillFromItems wanted length (index + 1) (set record) slots rest

end Record

def Schema.record {ρ : Type} (name : String) (start : ρ) (slots : List (Slot ρ)) :
    Schema ρ where
  fromText depth input := do
    match ← scanHead input with
    | (.object, rest) =>
        match depth with
        | 0 => throw .tooDeep
        | depth + 1 => Record.fillMembers slots depth true [] start rest rest
    | (.list, rest) =>
        match depth with
        | 0 => throw .tooDeep
        | depth + 1 => Record.fillItems (Record.wanted name slots) depth 0 start slots rest
    | (h, _) => throw (.wrongType h s!"struct {name}")
  fromJson
    | .object members => Record.fillFromMembers slots [] start members
    | .list xs => Record.fillFromItems (Record.wanted name slots) xs.length 0 start slots xs
    | j => .error (.wrongType (head j) s!"struct {name}")

end MuxConsole.Json
