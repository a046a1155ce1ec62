import MuxConsole.Json.Scan

/-!
# Reading JSON values

Lists and objects may be nested 127 deep.  A key that is repeated in an object
replaces the earlier value in its place.
-/

namespace MuxConsole.Json

/-- The items from an item on, with the closing bracket.  The clock is the text:
each item takes at least one byte off it. -/
def itemsFrom {α : Type} (item : Reader α) (first : Bool) : (clock : Bytes) → Reader (List α)
  | [], _ => .error .listEnds
  | _ :: clock, input => do
      match ← nextItem first input with
      | .done rest => return ([], rest)
      | .item input =>
          let (x, input) ← item input
          let (xs, rest) ← itemsFrom item false clock input
          return (x :: xs, rest)

def items {α : Type} (item : Reader α) (input : Bytes) : Except Problem (List α × Bytes) :=
  itemsFrom item true input input

def membersFrom {α : Type} (value : Reader α) (first : Bool) :
    (clock : Bytes) → Reader (List (String × α))
  | [], _ => .error .objectEnds
  | _ :: clock, input => do
      match ← nextMember first input with
      | .done rest => return ([], rest)
      | .member key input =>
          let input ← expectColon input
          let (x, input) ← value input
          let (xs, rest) ← membersFrom value false clock input
          return ((key, x) :: xs, rest)

def members {α : Type} (value : Reader α) (input : Bytes) :
    Except Problem (List (String × α) × Bytes) :=
  membersFrom value true input input

def valueWith (inner : Option (Reader Json)) (input : Bytes) : Except Problem (Json × Bytes) := do
  match ← scanHead input with
  | (.null, rest) => return (.null, rest)
  | (.bool b, rest) => return (.bool b, rest)
  | (.number n, rest) => return (.number n, rest)
  | (.text s, rest) => return (.text s, rest)
  | (.list, rest) =>
      match inner with
      | none => throw .tooDeep
      | some read =>
          let (xs, rest) ← items read rest
          return (.list xs, rest)
  | (.object, rest) =>
      match inner with
      | none => throw .tooDeep
      | some read =>
          let (xs, rest) ← members read rest
          return (.object (Members.collect xs), rest)

def value : (depth : Nat) → Reader Json
  | 0 => valueWith none
  | depth + 1 => valueWith (some (value depth))

def greatestDepth : Nat := 127

def parse (input : Bytes) : Except Problem Json := whole (value greatestDepth) input

end MuxConsole.Json
