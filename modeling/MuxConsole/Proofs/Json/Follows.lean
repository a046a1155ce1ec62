import Mathlib.Data.List.Induction
import MuxConsole.Proofs.Json.Fields
import MuxConsole.Proofs.Json.ReadBack
import MuxConsole.Proofs.Json.Skipping

/-!
# Records are read from a text as from its members

A text that is read as a value has been gone through once already.  What a schema takes from
such a text it takes from the value as well, and a record takes the same from an object as
from the list of its members in the order of the text, repeated ones included.
-/

namespace MuxConsole.Json

variable {depth : Nat} {input rest : Bytes} {j : Json}

/-! ## Schemas -/

theorem scanHead_of_value (h : value depth input = .ok (j, rest)) :
    ∃ left, scanHead input = .ok (head j, left) ∧
      ((∀ items, j ≠ .list items) → (∀ members, j ≠ .object members) → left = rest) := by
  obtain ⟨inner, hvalue⟩ := exists_value_eq depth
  rw [hvalue] at h
  obtain ⟨⟨found, left⟩, scanned, h⟩ := exists_of_bind_ok h
  refine ⟨left, ?_⟩
  rw [scanned]
  cases found with
  | list =>
      cases inner with
      | none => cases h
      | some read =>
          obtain ⟨⟨items, _⟩, -, h⟩ := exists_of_bind_ok h
          cases h
          exact ⟨rfl, fun noList => absurd rfl (noList items)⟩
  | object =>
      cases inner with
      | none => cases h
      | some read =>
          obtain ⟨⟨members, _⟩, -, h⟩ := exists_of_bind_ok h
          cases h
          exact ⟨rfl, fun _ noObject => absurd rfl (noObject _)⟩
  | _ =>
      cases h
      exact ⟨rfl, fun _ _ => rfl⟩

namespace Schema

variable {α β : Type} {schema : Schema α}

/-- The schema takes from a text what it takes from the value that the text is read as. -/
def Follows (depth : Nat) (schema : Schema α) : Prop :=
  ∀ input j rest, value depth input = .ok (j, rest) →
    schema.fromText depth input = (schema.fromJson j).map (·, rest)

theorem follows_map (follows : schema.Follows depth) (f : α → β) :
    (schema.map f).Follows depth := by
  intro input j rest h
  have same := follows input j rest h
  simp only [map, same]
  cases schema.fromJson j <;> rfl

theorem ofHead_fromText {read : Head → Except Problem α} {found : Head}
    (scanned : scanHead input = .ok (found, rest)) :
    (ofHead read).fromText depth input = (read found).map (·, rest) := by
  simp only [ofHead, scanned, bind, Except.bind]
  cases read found <;> rfl

theorem follows_ofHead {read : Head → Except Problem α}
    (noList : ∃ problem, read .list = .error problem)
    (noObject : ∃ problem, read .object = .error problem) : (ofHead read).Follows depth := by
  intro input j rest h
  obtain ⟨left, scanned, same⟩ := scanHead_of_value h
  rw [ofHead_fromText scanned]
  cases j with
  | list items =>
      obtain ⟨problem, refused⟩ := noList
      exact (congrArg (·.map (·, left)) refused).trans
        (congrArg (·.map (·, rest)) refused).symm
  | object members =>
      obtain ⟨problem, refused⟩ := noObject
      exact (congrArg (·.map (·, left)) refused).trans
        (congrArg (·.map (·, rest)) refused).symm
  | _ => rw [same nofun nofun]; rfl

theorem follows_string : string.Follows depth := follows_ofHead ⟨_, rfl⟩ ⟨_, rfl⟩

theorem follows_word [Word α] : (word : Schema α).Follows depth := follows_ofHead ⟨_, rfl⟩ ⟨_, rfl⟩

theorem follows_number : number.Follows depth := follows_ofHead ⟨_, rfl⟩ ⟨_, rfl⟩

theorem follows_ofValue (read : Json → Except Problem α) : (ofValue read).Follows depth := by
  intro input j rest h
  simp only [ofValue, h, bind, Except.bind]
  cases read j <;> rfl

theorem follows_optional (follows : schema.Follows depth) : schema.optional.Follows depth := by
  intro input j rest h
  have same := follows input j rest h
  obtain ⟨left, scanned, last⟩ := scanHead_of_value h
  simp only [optional, scanned, same]
  cases j with
  | null =>
      rw [last nofun nofun]
      rfl
  | _ =>
      simp only [head]
      cases schema.fromJson _ <;> rfl

/-- What follows a value is read from whatever gives the value. -/
theorem Follows.gives (follows : schema.Follows depth) {text : Bytes}
    (gives : Gives (value depth) text (.ok j)) :
    Gives (schema.fromText depth) text (schema.fromJson j) :=
  fun blanks rest blank ends => follows _ j rest (gives blanks rest blank ends)

end Schema

/-! ## Members -/

namespace Record

variable {ρ : Type} {slots : List (Slot ρ)}

theorem fillMembers_of_membersFrom (follows : ∀ slot ∈ slots, slot.fill.Follows depth)
    {first : Bool} {clock : Bytes} {found : Members}
    (h : membersFrom (value depth) first clock input = .ok (found, rest)) (seen : List String)
    (record : ρ) :
    fillMembers slots depth first seen record clock input =
      (fillFromMembers slots seen record found).map (·, rest) := by
  induction clock generalizing first input found seen record with
  | nil => cases h
  | cons tick clock ih =>
      obtain ⟨place, next, h⟩ := exists_of_bind_ok h
      simp only [fillMembers, next, bind, Except.bind]
      cases place with
      | done left =>
          cases h
          rw [fillFromMembers]
          cases missing? slots seen <;> rfl
      | member key after =>
          obtain ⟨left, colon, h⟩ := exists_of_bind_ok h
          obtain ⟨⟨j, _⟩, readValue, h⟩ := exists_of_bind_ok h
          obtain ⟨⟨others, _⟩, readOthers, h⟩ := exists_of_bind_ok h
          cases h
          simp only [fillFromMembers, colon]
          cases found : slots.find? (·.key = key) with
          | none =>
              simp only [skip_of_value readValue]
              exact ih readOthers seen record
          | some slot =>
              have same := follows slot (List.mem_of_find?_eq_some found) _ _ _ readValue
              dsimp only
              split
              · rfl
              · rw [same]
                cases slot.fill.fromJson j with
                | error problem => rfl
                | ok set => exact ih readOthers (key :: seen) (set record)

end Record

/-! ### Names in the order of the text -/

theorem Members.collect_concat (members : Members) (member : String × Json) :
    collect (members ++ [member]) = put member.1 member.2 (collect members) := by
  rw [collect, collect, List.foldl_append]
  rfl

theorem Members.names_collect (members : Members) :
    names (collect members) = (names members).eraseDups := by
  induction members using List.reverseRecOn with
  | nil => rfl
  | append_singleton members member ih =>
      have split : names (members ++ [member]) = names members ++ [member.1] := List.map_append
      rw [collect_concat, names_put, ih, split, List.eraseDups_append]
      by_cases old : member.1 ∈ names members <;> simp [old, List.removeAll, List.eraseDups_cons]

theorem Members.filter_names (keeps : String → Bool) (members : Members) :
    (names members).filter keeps = names (members.filter fun member => keeps member.1) := by
  rw [names, List.filter_map]
  rfl

namespace Record

variable {ρ : Type} {slots : List (Slot ρ)}

theorem fillFromMembers_asked (slots : List (Slot ρ)) (members : Members) (seen : List String)
    (record : ρ) :
    fillFromMembers slots seen record members = fillFromMembers slots seen record
      (members.filter fun member => member.1 ∈ slots.map (·.key)) := by
  induction members generalizing seen record with
  | nil => rfl
  | cons member members ih =>
      obtain ⟨key, j⟩ := member
      by_cases asked : key ∈ slots.map (·.key)
      · rw [List.filter_cons_of_pos (by simpa using asked), fillFromMembers, fillFromMembers]
        simp only [ih]
      · have unasked : slots.find? (·.key = key) = none := by
          rw [List.find?_eq_none]
          intro slot isSlot
          have apart : slot.key ≠ key := fun same => asked (same ▸ List.mem_map_of_mem isSlot)
          simpa using apart
        rw [List.filter_cons_of_neg (by simpa using asked), fillFromMembers_pass unasked, ih]

end Record

/-! ## Whole texts -/

/-- The members of an object in the order of the text, each as often as it stands there. -/
def membersOf (content : Bytes) : Except Problem Members :=
  whole (fun input => do
    match ← scanHead input with
    | (.object, rest) => members (value (greatestDepth - 1)) rest
    | (h, _) => throw (.wrongType h "a map")) content

section

variable {content : Bytes} {found : Members}

theorem membersOf_ok : membersOf content = .ok found ↔
    ∃ opened rest, scanHead content = .ok (.object, opened) ∧
      members (value (greatestDepth - 1)) opened = .ok (found, rest) ∧ skipBlanks rest = [] := by
  constructor
  · intro h
    obtain ⟨⟨found, rest⟩, read, last⟩ := exists_of_bind_ok h
    obtain ⟨⟨head, opened⟩, scanned, read⟩ := exists_of_bind_ok read
    dsimp only at last
    split at last
    · rename_i ended
      cases last
      cases head with
      | object => exact ⟨opened, rest, scanned, read, ended⟩
      | _ => cases read
    · cases last
  · rintro ⟨opened, rest, scanned, read, ended⟩
    simp only [membersOf, whole, scanned, read, ended, bind, Except.bind]
    rfl

theorem parse_eq_object {entries : Members} : parse content = .ok (.object entries) ↔
    ∃ found, membersOf content = .ok found ∧ entries = found.collect := by
  constructor
  · intro h
    obtain ⟨⟨j, rest⟩, read, last⟩ := exists_of_bind_ok h
    dsimp only at last
    split at last
    · rename_i ended
      cases last
      obtain ⟨opened, scanned, -⟩ := scanHead_of_value read
      obtain ⟨⟨head, left⟩, scannedToo, body⟩ := exists_of_bind_ok read
      rw [scanned] at scannedToo
      cases scannedToo
      obtain ⟨⟨found, _⟩, readMembers, same⟩ := exists_of_bind_ok body
      cases same
      exact ⟨found, membersOf_ok.mpr ⟨_, _, scanned, readMembers, ended⟩, rfl⟩
    · cases last
  · rintro ⟨found, h, rfl⟩
    obtain ⟨opened, rest, scanned, read, ended⟩ := membersOf_ok.mp h
    have value : value greatestDepth content = .ok (.object found.collect, rest) := by
      change (scanHead content >>= _) = _
      rw [scanned]
      change (members (value (greatestDepth - 1)) opened >>= _) = _
      rw [read]
      rfl
    simp only [parse, whole, value, ended, bind, Except.bind]
    rfl

theorem membersOf_rendered {members : Members}
    (each : ∀ member ∈ members, IsReadBack (greatestDepth - 1) member.2) :
    membersOf (rendered (.object members)) = .ok members := by
  have keys : ∀ member ∈ members, Spells (tightMember member).key.text (.ok member.1) :=
    fun member _ => spells_tightMember member
  have gives : ∀ member ∈ members,
      Gives (value (greatestDepth - 1)) (tightMember member).value.text (.ok member.2) := each
  have read := members_enclosed keys gives (List.forall_mem_nil _) []
  rw [mapM_both, List.append_nil] at read
  rw [rendered_members]
  exact membersOf_ok.mpr ⟨_, _, rfl, read, rfl⟩

theorem Schema.parse_record {ρ : Type} {title : String} {start : ρ} {slots : List (Slot ρ)}
    (follows : ∀ slot ∈ slots, slot.fill.Follows (greatestDepth - 1))
    (h : membersOf content = .ok found) :
    (Schema.record title start slots).parse content =
      Record.fillFromMembers slots [] start found := by
  obtain ⟨opened, rest, scanned, read, ended⟩ := membersOf_ok.mp h
  have filled := Record.fillMembers_of_membersFrom follows read [] start
  have record : (Schema.record title start slots).fromText greatestDepth content =
      (Record.fillFromMembers slots [] start found).map (·, rest) := by
    change (scanHead content >>= _) = _
    rw [scanned]
    exact filled
  rw [Schema.parse, whole, record]
  cases Record.fillFromMembers slots [] start found with
  | error problem => rfl
  | ok result =>
      simp only [Except.map, bind, Except.bind, ended]
      rfl

end

end MuxConsole.Json
