import MuxConsole.Json.Basic

/-!
# Machine words as numbers

The fixed-width integers that records hold, each with the name it goes by in a
message.  Every word is a whole number that JSON keeps exactly, and reads back.
-/

namespace MuxConsole.Json

class Word (α : Type) where
  name : String
  toInt : α → Int
  ofInt? : Int → Option α
  isWord : ∀ x, IsWord (toInt x)
  ofInt?_toInt : ∀ x, ofInt? (toInt x) = some x
  toInt_of_ofInt? : ∀ n x, ofInt? n = some x → toInt x = n

instance : Word Int32 where
  name := "i32"
  toInt := Int32.toInt
  ofInt? n := if -0x80000000 ≤ n ∧ n < 0x80000000 then some (Int32.ofInt n) else none
  isWord x := by
    have low := x.le_toInt
    have high := x.toInt_lt
    omega
  ofInt?_toInt x := by
    rw [if_pos ⟨x.le_toInt, x.toInt_lt⟩, Int32.ofInt_toInt]
  toInt_of_ofInt? n x h := by
    split at h
    · rename_i bounds
      cases h
      exact Int32.toInt_ofInt_of_le bounds.1 bounds.2
    · cases h

instance : Word Int64 where
  name := "i64"
  toInt := Int64.toInt
  ofInt? n := if -0x8000000000000000 ≤ n ∧ n < 0x8000000000000000 then some (Int64.ofInt n) else none
  isWord x := by
    have low := x.le_toInt
    have high := x.toInt_lt
    omega
  ofInt?_toInt x := by
    rw [if_pos ⟨x.le_toInt, x.toInt_lt⟩, Int64.ofInt_toInt]
  toInt_of_ofInt? n x h := by
    split at h
    · rename_i bounds
      cases h
      exact Int64.toInt_ofInt_of_le bounds.1 bounds.2
    · cases h

instance : Word UInt16 where
  name := "u16"
  toInt x := x.toNat
  ofInt? n := if 0 ≤ n ∧ n < 0x10000 then some (UInt16.ofNat n.toNat) else none
  isWord x := by
    have high := x.toNat_lt
    omega
  ofInt?_toInt x := by
    have high := x.toNat_lt
    rw [if_pos (by omega)]
    simp
  toInt_of_ofInt? n x h := by
    split at h
    · rename_i bounds
      cases h
      rw [UInt16.toNat_ofNat_of_lt' (by simp [UInt16.size]; omega)]
      omega
    · cases h

instance : Word UInt64 where
  name := "u64"
  toInt x := x.toNat
  ofInt? n := if 0 ≤ n ∧ n < 0x10000000000000000 then some (UInt64.ofNat n.toNat) else none
  isWord x := by
    have high := x.toNat_lt
    omega
  ofInt?_toInt x := by
    have high := x.toNat_lt
    rw [if_pos (by omega)]
    simp
  toInt_of_ofInt? n x h := by
    split at h
    · rename_i bounds
      cases h
      rw [UInt64.toNat_ofNat_of_lt' (by simp [UInt64.size]; omega)]
      omega
    · cases h

def ofWord {α : Type} [Word α] (x : α) : Json :=
  .number (.whole (Word.toInt x) (Word.isWord x))

end MuxConsole.Json
