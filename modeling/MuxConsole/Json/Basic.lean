import MuxConsole.Decimal.Double

/-!
# JSON values

A number is a whole number in the range that JSON readers keep exactly, or a
double.  An object is its list of members in order; assigning a member keeps
the place of the one it replaces.
-/

namespace MuxConsole

abbrev IsWord (n : Int) : Prop := -0x8000000000000000 ≤ n ∧ n < 0x10000000000000000

inductive Number where
  | whole (n : Int) (inRange : IsWord n)
  | double (d : Decimal.Double)
deriving DecidableEq

inductive Json where
  | null
  | bool (b : Bool)
  | number (n : Number)
  | text (s : String)
  | list (items : List Json)
  | object (members : List (String × Json))
deriving Inhabited

namespace Json

abbrev Members := List (String × Json)

namespace Members

def get? (name : String) : Members → Option Json
  | [] => none
  | (key, value) :: rest => if key = name then some value else get? name rest

/-- Assigns a member: in place if there is one of that name, else at the end. -/
def put (name : String) (value : Json) : Members → Members
  | [] => [(name, value)]
  | (key, old) :: rest =>
      if key = name then (key, value) :: rest else (key, old) :: put name value rest

def names (members : Members) : List String := members.map (·.1)

def collect (members : Members) : Members :=
  members.foldl (fun done (name, value) => put name value done) []

end Members

def get? (name : String) : Json → Option Json
  | .object members => Members.get? name members
  | _ => none

def ofStrings (items : List String) : Json := .list (items.map .text)

end Json

end MuxConsole
