/-!
# Tables sorted by key

A table holds one value per key, its entries sorted by key.  The order of texts
is that of their code points, which is also the order of their UTF-8 bytes.
-/

namespace MuxConsole

structure KeyTable (α : Type) where
  entries : List (String × α)
  sorted : entries.Pairwise fun left right => left.1 < right.1

namespace KeyTable

variable {α β : Type}

theorem ext_entries {left right : KeyTable α} (h : left.entries = right.entries) :
    left = right := by
  cases left
  cases right
  cases h
  rfl

def empty : KeyTable α := ⟨[], List.Pairwise.nil⟩

instance : Inhabited (KeyTable α) := ⟨empty⟩

/-! ## Insertion -/

def insertEntry (key : String) (value : α) : List (String × α) → List (String × α)
  | [] => [(key, value)]
  | (k, v) :: rest =>
      if key < k then (key, value) :: (k, v) :: rest
      else if k < key then (k, v) :: insertEntry key value rest
      else (key, value) :: rest

theorem mem_insertEntry {key : String} {value : α} {entries : List (String × α)}
    {entry : String × α} (h : entry ∈ insertEntry key value entries) :
    entry = (key, value) ∨ entry ∈ entries := by
  fun_induction insertEntry key value entries with
  | case1 => simpa using h
  | case2 k v rest _ => simpa using h
  | case3 k v rest _ _ ih =>
      rcases List.mem_cons.mp h with rfl | h
      · simp
      · rcases ih h with h | h
        · exact .inl h
        · exact .inr (List.mem_cons_of_mem _ h)
  | case4 k v rest _ _ =>
      rcases List.mem_cons.mp h with h | h
      · exact .inl h
      · exact .inr (List.mem_cons_of_mem _ h)

theorem insertEntry_sorted (key : String) (value : α) {entries : List (String × α)}
    (h : entries.Pairwise fun left right => left.1 < right.1) :
    (insertEntry key value entries).Pairwise fun left right => left.1 < right.1 := by
  fun_induction insertEntry key value entries with
  | case1 => simp
  | case2 k v rest before =>
      refine List.pairwise_cons.mpr ⟨fun entry member => ?_, h⟩
      rcases List.mem_cons.mp member with rfl | member
      · exact before
      · exact String.lt_trans before ((List.pairwise_cons.mp h).1 entry member)
  | case3 k v rest _ after ih =>
      have parts := List.pairwise_cons.mp h
      refine List.pairwise_cons.mpr ⟨fun entry member => ?_, ih parts.2⟩
      rcases mem_insertEntry member with rfl | member
      · exact after
      · exact parts.1 entry member
  | case4 k v rest notBefore notAfter =>
      have parts := List.pairwise_cons.mp h
      have same : key = k :=
        String.le_antisymm (String.not_lt.mp notAfter) (String.not_lt.mp notBefore)
      exact List.pairwise_cons.mpr ⟨same ▸ parts.1, parts.2⟩

def insert (table : KeyTable α) (key : String) (value : α) : KeyTable α :=
  ⟨insertEntry key value table.entries, insertEntry_sorted key value table.sorted⟩

/-- The table of the given entries; of two with one key the later one counts. -/
def ofList (entries : List (String × α)) : KeyTable α :=
  entries.foldl (fun table (key, value) => table.insert key value) empty

/-! ## Looking up -/

def get? (table : KeyTable α) (key : String) : Option α :=
  (table.entries.find? fun entry => entry.1 = key).map (·.2)

def size (table : KeyTable α) : Nat := table.entries.length

def isEmpty (table : KeyTable α) : Bool := table.entries.isEmpty

def keys (table : KeyTable α) : List String := table.entries.map (·.1)

end KeyTable

end MuxConsole
