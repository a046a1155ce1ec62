import Mathlib.Data.List.Sort
import MuxConsole.KeyTable
import MuxConsole.Proofs.Json.Shape
import MuxConsole.Proofs.Named

/-!
# What a table holds

A table is settled by what it holds under each key.  One that is made of entries with
different keys holds just these, whatever order they came in.
-/

namespace MuxConsole.KeyTable

variable {α β : Type}

abbrev Ahead (left right : String × α) : Prop := left.1 < right.1

/-! ## Looking up -/

theorem nodup_of_sorted {entries : List (String × α)} (sorted : entries.Pairwise Ahead) :
    (entries.map (·.1)).Nodup :=
  List.pairwise_map.mpr (sorted.imp String.ne_of_lt)

theorem sorted_of_keys {entries : List (String × α)} {others : List (String × β)}
    (same : others.map (·.1) = entries.map (·.1)) (sorted : entries.Pairwise Ahead) :
    others.Pairwise Ahead := by
  have keys : (entries.map (·.1)).Pairwise (· < ·) := List.pairwise_map.mpr sorted
  rwa [← same, List.pairwise_map] at keys

theorem get?_eq_some_iff {table : KeyTable α} {key : String} {value : α} :
    table.get? key = some value ↔ (key, value) ∈ table.entries := by
  constructor
  · intro h
    obtain ⟨entry, found, rfl⟩ := Option.map_eq_some_iff.mp h
    have same := List.find?_some found
    rw [decide_eq_true_eq] at same
    subst same
    exact List.mem_of_find?_eq_some found
  · intro h
    have found := find?_of_nodup (nodup_of_sorted table.sorted) h
    rw [get?, found]
    rfl

theorem ext_get? {left right : KeyTable α} (h : ∀ key, left.get? key = right.get? key) :
    left = right := by
  refine ext_entries (List.Pairwise.eq_of_mem_iff left.sorted right.sorted fun entry => ?_)
  rw [← get?_eq_some_iff, ← get?_eq_some_iff, h]

theorem find?_insertEntry (key : String) (value : α) (other : String)
    (entries : List (String × α)) :
    (insertEntry key value entries).find? (fun entry => entry.1 = other) =
      if key = other then some (key, value) else entries.find? fun entry => entry.1 = other := by
  fun_induction insertEntry key value entries with
  | case1 => by_cases same : key = other <;> simp [same]
  | case2 k v rest before => by_cases same : key = other <;> simp [same]
  | case3 k v rest _ after ih =>
      by_cases here : k = other
      · subst here
        simp [(String.ne_of_lt after).symm]
      · simp [here, ih]
  | case4 k v rest notBefore notAfter =>
      have same : key = k :=
        String.le_antisymm (String.not_lt.mp notAfter) (String.not_lt.mp notBefore)
      subst same
      by_cases here : key = other <;> simp [here]

theorem get?_insert (table : KeyTable α) (key : String) (value : α) (other : String) :
    (table.insert key value).get? other = if key = other then some value else table.get? other := by
  simp only [get?, insert, find?_insertEntry]
  split <;> rfl

/-! ## Tables of lists -/

theorem insertEntry_perm {key : String} {entries : List (String × α)}
    (absent : key ∉ entries.map (·.1)) (value : α) :
    (insertEntry key value entries).Perm ((key, value) :: entries) := by
  fun_induction insertEntry key value entries with
  | case1 => exact .refl _
  | case2 => exact .refl _
  | case3 k v rest _ _ ih =>
      rw [List.map_cons, List.mem_cons, not_or] at absent
      exact ((ih absent.2).cons (k, v)).trans (.swap _ _ _)
  | case4 k v rest notBefore notAfter =>
      have same : key = k :=
        String.le_antisymm (String.not_lt.mp notAfter) (String.not_lt.mp notBefore)
      exact absurd (same ▸ List.mem_cons_self) absent

theorem foldl_insert_perm {entries : List (String × α)} {table : KeyTable α}
    (distinct : ((entries ++ table.entries).map (·.1)).Nodup) :
    (entries.foldl (fun table (key, value) => table.insert key value) table).entries.Perm
      (entries ++ table.entries) := by
  induction entries generalizing table with
  | nil => exact .refl _
  | cons entry rest ih =>
      obtain ⟨key, value⟩ := entry
      rw [List.cons_append, List.map_cons, List.nodup_cons, List.map_append] at distinct
      obtain ⟨absent, distinctRest⟩ := distinct
      have put := insertEntry_perm (fun h => absent (List.mem_append_right _ h)) value
      have moved : (rest ++ (table.insert key value).entries).Perm
          ((key, value) :: (rest ++ table.entries)) :=
        (put.append_left rest).trans List.perm_middle
      refine (ih ?_).trans moved
      rw [(moved.map _).nodup_iff, List.map_cons, List.nodup_cons, List.map_append]
      exact ⟨absent, distinctRest⟩

theorem ofList_perm {entries : List (String × α)} (distinct : (entries.map (·.1)).Nodup) :
    (ofList entries).entries.Perm entries := by
  have bare : entries ++ (empty : KeyTable α).entries = entries := List.append_nil entries
  have perm := foldl_insert_perm (bare.symm ▸ distinct)
  rwa [bare] at perm

theorem ofList_of_sorted {entries : List (String × α)} (sorted : entries.Pairwise Ahead) :
    ofList entries = ⟨entries, sorted⟩ := by
  have perm := ofList_perm (nodup_of_sorted sorted)
  refine ext_entries (perm.eq_of_pairwise ?_ (ofList entries).sorted sorted)
  intro left right _ _ ahead behind
  exact absurd (String.lt_trans ahead behind) (String.lt_irrefl _)

theorem ofList_eq_of_perm {entries others : List (String × α)}
    (distinct : (entries.map (·.1)).Nodup) (perm : others.Perm entries) :
    ofList others = ofList entries := by
  have distinctOthers := (perm.map _).nodup_iff.mpr distinct
  refine ext_entries (((ofList_perm distinctOthers).trans
    (perm.trans (ofList_perm distinct).symm)).eq_of_pairwise ?_ (ofList others).sorted
    (ofList entries).sorted)
  intro left right _ _ ahead behind
  exact absurd (String.lt_trans ahead behind) (String.lt_irrefl _)

theorem get?_ofList (members : Json.Members) (key : String) :
    (ofList members).get? key = members.collect.get? key := by
  have step (table : KeyTable Json) (done : Json.Members)
      (same : ∀ key, table.get? key = done.get? key) :
      (members.foldl (fun table member => table.insert member.1 member.2) table).get? key =
        (members.foldl (fun done member => done.put member.1 member.2) done).get? key := by
    induction members generalizing table done with
    | nil => exact same key
    | cons member rest ih =>
        refine ih _ _ fun key => ?_
        rw [get?_insert, Json.Members.get?_put, same]
  exact step empty [] fun _ => rfl

theorem ofList_collect (members : Json.Members) : ofList members.collect = ofList members := by
  refine ext_get? fun key => ?_
  rw [get?_ofList, get?_ofList, Json.Members.collect_of_distinct (Json.Members.nodup_collect _)]

/-! ## Tables of like entries -/

section

variable {R : String × α → String × β → Prop}

theorem insertEntry_forall₂ (named : ∀ left right, R left right → left.1 = right.1)
    {key : String} {value : α} {other : β} (first : R (key, value) (key, other))
    {entries : List (String × α)} {others : List (String × β)}
    (rest : List.Forall₂ R entries others) :
    List.Forall₂ R (insertEntry key value entries) (insertEntry key other others) := by
  induction rest with
  | nil => exact .cons first .nil
  | @cons left right entries others like more ih =>
      obtain ⟨name, value⟩ := left
      obtain ⟨_, other⟩ := right
      obtain rfl := named _ _ like
      simp only [insertEntry]
      split
      · exact .cons first (.cons like more)
      · split
        · exact .cons like ih
        · exact .cons first more

theorem ofList_forall₂ (named : ∀ left right, R left right → left.1 = right.1)
    {entries : List (String × α)} {others : List (String × β)} (h : List.Forall₂ R entries others) :
    List.Forall₂ R (ofList entries).entries (ofList others).entries := by
  have step {table : KeyTable α} {table' : KeyTable β}
      (like : List.Forall₂ R table.entries table'.entries) :
      List.Forall₂ R
        (entries.foldl (fun table entry => table.insert entry.1 entry.2) table).entries
        (others.foldl (fun table entry => table.insert entry.1 entry.2) table').entries := by
    induction h generalizing table table' with
    | nil => exact like
    | @cons left right _ _ first _ ih =>
        obtain ⟨key, value⟩ := left
        obtain ⟨_, other⟩ := right
        obtain rfl := named _ _ first
        exact ih (insertEntry_forall₂ named first like)
  exact step .nil

end

end MuxConsole.KeyTable
