import MuxConsole.Json.Schema
import MuxConsole.Proofs.Json.Steady
import MuxConsole.Proofs.KeyTable

/-!
# Records are read member by member

A record takes the members of an object in the order of the text: each one goes to the
slot of its name, and one that no slot asks for is passed over.  So what a record is
read as is settled by how the names and the values of its members are read, whether
from a text or from a value.
-/

namespace MuxConsole.Json

/-! ## Tables -/

section

variable {α : Type}

theorem Schema.gives_map {β : Type} {schema : Schema α} {depth : Nat} {text : Bytes}
    {result : Except Problem α} (gives : Gives (schema.fromText depth) text result) (f : α → β) :
    Gives ((schema.map f).fromText depth) text (result.map f) :=
  gives.map f

theorem Schema.gives_json {depth : Nat} {text : Bytes} {result : Except Problem Json}
    (gives : Gives (value depth) text result) : Gives (json.fromText depth) text result := by
  have same := gives.bind Except.ok
  cases result <;> exact same

theorem gives_of_head {read : Reader α} {go : Head × Bytes → Except Problem (α × Bytes)}
    (h : ∀ input, read input = scanHead input >>= go) {text : Bytes}
    {result : Except Problem α}
    (gives : ∀ rest, EndsNumeral rest → read (text ++ rest) = result.map (·, rest)) :
    Gives read text result := by
  intro blanks rest blank ends
  rw [h, scanHead_append blank, ← h]
  exact gives rest ends

theorem Schema.gives_table {schema : Schema α} {depth : Nat} {β ι κ : Type} (key : ι → Spaced κ)
    (part : ι → Spaced β) {name : ι → Except Problem String} {result : ι → Except Problem α}
    {members : List ι} {blanks : Bytes}
    (keys : ∀ member ∈ members, Spells (key member).text (name member))
    (gives : ∀ member ∈ members,
      Gives (schema.fromText depth) (part member).text (result member))
    (blank : IsBlank blanks) :
    Gives (schema.table.fromText (depth + 1))
      (Ascii.openBrace :: (blanks ++ enclosed Ascii.closeBrace
        (members.map fun member => assigned (key member) (part member))))
      ((members.mapM fun member => both (name member) (result member)).map KeyTable.ofList) := by
  refine gives_of_head (fun input => rfl) fun rest _ => ?_
  have read := members_enclosed keys gives blank rest
  rw [List.cons_append, List.append_assoc]
  change (Json.members (schema.fromText depth) _ >>= _) = _
  rw [read]
  cases members.mapM (fun member => both (name member) (result member)) <;> rfl

/-- Every JSON text is read as a table, or refused as one, for what stands in it. -/
theorem Schema.steady_table {depth : Nat} {text : Bytes} (h : IsJson text) :
    Steady ((Schema.table .json).fromText depth) text := by
  rcases h.shape with ⟨result, scalar, scans⟩ | ⟨blanks, items, blank, each, rfl⟩ |
    ⟨blanks, members, blank, each, rfl⟩
  · have refused : Gives ((Schema.table .json).fromText depth) text
        (result >>= fun j => .error (.wrongType (head j) "a map")) := by
      refine gives_of_head (fun input => rfl) fun rest ends => ?_
      rw [scans rest ends]
      cases result with
      | error problem => rfl
      | ok j =>
          cases j with
          | object members => exact absurd rfl ((scalar _ rfl).2 members)
          | _ => rfl
    exact refused.steady
  · have refused (text : Bytes) : Gives ((Schema.table .json).fromText depth)
        (Ascii.openBracket :: text) (.error (.wrongType .list "a map")) :=
      gives_of_head (fun input => rfl) fun rest _ => rfl
    exact (refused _).steady
  · cases depth with
    | zero =>
        have refused (text : Bytes) : Gives ((Schema.table .json).fromText 0)
            (Ascii.openBrace :: text) (.error .tooDeep) :=
          gives_of_head (fun input => rfl) fun rest _ => rfl
        exact (refused _).steady
    | succ depth =>
        exact (Schema.gives_table Prod.fst Prod.snd (fun member h => (each member h).1.spells)
          (fun member h => Schema.gives_json ((each member h).2.steady depth)) blank).steady

theorem Schema.gives_table_json {depth : Nat} {text : Bytes} {entries : Members} (h : IsJson text)
    (read : outcome (value depth) text = .ok (.object entries)) :
    Gives ((Schema.table .json).fromText depth) text (.ok (KeyTable.ofList entries)) := by
  rcases h.shape with ⟨result, scans⟩ | ⟨blanks, items, blank, each, rfl⟩ |
    ⟨blanks, members, blank, each, rfl⟩
  · have same := (gives_of_scans scans).outcome_eq.symm.trans read
    exact absurd rfl ((scans.1 _ same).2 entries)
  · cases depth with
    | zero =>
        rw [(gives_tooDeep (.inl rfl) _).outcome_eq] at read
        cases read
    | succ depth =>
        have steady (item : Spaced Unit) (h : item ∈ items) := (each item h).steady depth
        have gives := gives_list steady (fun item h => (each item h).beginsItem) blank
        rw [gives.outcome_eq] at read
        obtain ⟨_, -, same⟩ := exists_of_map_ok read
        cases same
  · cases depth with
    | zero =>
        rw [(gives_tooDeep (.inr rfl) _).outcome_eq] at read
        cases read
    | succ depth =>
        have spells (member : Spaced Unit × Spaced Unit) (h : member ∈ members) :=
          (each member h).1.spells
        have steady (member : Spaced Unit × Spaced Unit) (h : member ∈ members) :=
          (each member h).2.steady depth
        have gives := gives_object Prod.fst Prod.snd spells steady blank
        rw [gives.outcome_eq] at read
        obtain ⟨found, readMembers, same⟩ := exists_of_map_ok read
        obtain rfl := Json.object.inj same
        have table := Schema.gives_table Prod.fst Prod.snd spells
          (fun member h => Schema.gives_json (steady member h)) blank
        rw [readMembers] at table
        rw [KeyTable.ofList_collect]
        exact table

end

/-! ## Records -/

namespace Record

variable {ρ ι : Type}

/-- The members of an object as the slots take them, from how their names and their
values are read. -/
def fillWith (slots : List (Slot ρ)) (name : ι → Except Problem String)
    (fill : Slot ρ → ι → Except Problem (ρ → ρ)) (seen : List String) (record : ρ) :
    List ι → Except Problem ρ
  | [] =>
      match missing? slots seen with
      | some problem => .error problem
      | none => .ok record
  | member :: rest => do
      let key ← name member
      match slots.find? (·.key = key) with
      | none => fillWith slots name fill seen record rest
      | some slot =>
          if seen.contains key then .error (.duplicate key)
          else do
            let set ← fill slot member
            fillWith slots name fill (key :: seen) (set record) rest

def fillInTurn (wanted : String) (tooLong : Problem)
    (fill : Slot ρ → ι → Except Problem (ρ → ρ)) (index : Nat) (record : ρ) :
    List (Slot ρ) → List ι → Except Problem ρ
  | [], [] => .ok record
  | [], _ :: _ => .error tooLong
  | slot :: slots, [] =>
      match tooShort? wanted index (slot :: slots) with
      | some problem => .error problem
      | none => .ok record
  | slot :: slots, item :: rest => do
      let set ← fill slot item
      fillInTurn wanted tooLong fill (index + 1) (set record) slots rest

/-! ### From the members of an object -/

section

variable {β κ : Type} {key : ι → Spaced κ} {part : ι → Spaced β} {slots : List (Slot ρ)}
  {depth : Nat} {name : ι → Except Problem String} {fill : Slot ρ → ι → Except Problem (ρ → ρ)}

/-- How a member is written, as far as a record minds it: it has a name and a value for
the slot of that name, or can be passed over if there is none. -/
structure Fills (key : Spaced κ) (part : Spaced β) (slots : List (Slot ρ)) (depth : Nat)
    (name : Except Problem String) (fill : Slot ρ → Except Problem (ρ → ρ)) : Prop where
  spells : Spells key.text name
  gives : ∀ slot ∈ slots, name = .ok slot.key →
    Gives (slot.fill.fromText depth) part.text (fill slot)
  passes : (∀ s, name = .ok s → slots.find? (·.key = s) = none) → Passes skip part.text

theorem fillMembers_cons {member : ι} {members : List ι} {first : Bool}
    {clock input left rest : Bytes}
    (next : nextMember first input = (name member).map (.member · ((key member).after ++
      Ascii.colon :: ((part member).before ++ ((part member).text ++ left)))))
    (fills : Fills (key member) (part member) slots depth (name member) (fill · member))
    (ends : EndsNumeral left)
    (others : ∀ seen record, fillMembers slots depth false seen record clock left =
      (fillWith slots name fill seen record members).map (·, rest))
    (seen : List String) (record : ρ) (tick : UInt8) :
    fillMembers slots depth first seen record (tick :: clock) input =
      (fillWith slots name fill seen record (member :: members)).map (·, rest) := by
  rw [fillMembers, next, fillWith]
  cases hname : name member with
  | error problem => rfl
  | ok s =>
      simp only [Except.map, bind, Except.bind]
      cases hslot : slots.find? (·.key = s) with
      | none =>
          have absent : ∀ t, name member = .ok t → slots.find? (·.key = t) = none := by
            intro t ht
            rw [hname] at ht
            cases ht
            exact hslot
          have passed := fills.passes absent _ left (part member).blankBefore ends
          simp only [expectColon_assigned, passed]
          exact others seen record
      | some slot =>
          have sameKey : slot.key = s := by simpa using List.find?_some hslot
          have gives := fills.gives slot (List.mem_of_find?_eq_some hslot) (sameKey ▸ hname) _
            left (part member).blankBefore ends
          dsimp only
          split
          · rfl
          · simp only [expectColon_assigned, gives]
            cases fill slot member with
            | error problem => rfl
            | ok set => exact others (s :: seen) (set record)

variable {blanks : Bytes}

theorem fillMembers_tailed {members : List ι}
    (fills : ∀ member ∈ members,
      Fills (key member) (part member) slots depth (name member) (fill · member))
    {clock : Bytes} (long : members.length < clock.length) (blank : IsBlank blanks)
    (rest : Bytes) (seen : List String) (record : ρ) :
    fillMembers slots depth false seen record clock (blanks ++ (tailed Ascii.closeBrace
        (members.map fun member => assigned (key member) (part member)) ++ rest)) =
      (fillWith slots name fill seen record members).map (·, rest) := by
  induction members generalizing clock blanks seen record with
  | nil =>
      cases clock with
      | nil => cases long
      | cons _ clock =>
          rw [fillMembers, nextMember_append _ blank]
          change (match missing? slots seen with
            | some problem => throw problem
            | none => pure (record, rest)) = _
          rw [fillWith]
          cases missing? slots seen <;> rfl
  | cons member members ih =>
      cases clock with
      | nil => cases long
      | cons tick clock =>
          obtain ⟨fillsFirst, fillsRest⟩ := List.forall_mem_cons.mp fills
          have ends := endsNumeral_tailed (.inr rfl)
            (members.map fun member => assigned (key member) (part member)) rest
          have others := ih fillsRest (Nat.lt_of_succ_lt_succ long) (part member).blankAfter
          refine fillMembers_cons ?_ fillsFirst (ends.append (part member).blankAfter) others
            seen record tick
          rw [List.map_cons, tailed, List.cons_append, List.append_assoc]
          exact nextMember_tailed fillsFirst.spells (part member) blank _

theorem fillMembers_enclosed {members : List ι}
    (fills : ∀ member ∈ members,
      Fills (key member) (part member) slots depth (name member) (fill · member))
    {clock : Bytes} (long : members.length < clock.length) (blank : IsBlank blanks)
    (rest : Bytes) (seen : List String) (record : ρ) :
    fillMembers slots depth true seen record clock (blanks ++ (enclosed Ascii.closeBrace
        (members.map fun member => assigned (key member) (part member)) ++ rest)) =
      (fillWith slots name fill seen record members).map (·, rest) := by
  cases clock with
  | nil => cases long
  | cons tick clock =>
      cases members with
      | nil =>
          rw [fillMembers, nextMember_append _ blank]
          change (match missing? slots seen with
            | some problem => throw problem
            | none => pure (record, rest)) = _
          rw [fillWith]
          cases missing? slots seen <;> rfl
      | cons member members =>
          obtain ⟨fillsFirst, fillsRest⟩ := List.forall_mem_cons.mp fills
          have ends := endsNumeral_tailed (.inr rfl)
            (members.map fun member => assigned (key member) (part member)) rest
          have others := fillMembers_tailed fillsRest (Nat.lt_of_succ_lt_succ long)
            (part member).blankAfter rest
          refine fillMembers_cons ?_ fillsFirst (ends.append (part member).blankAfter) others
            seen record tick
          rw [List.map_cons, enclosed, List.append_assoc]
          exact nextMember_enclosed fillsFirst.spells (part member) blank _

end

/-! ### From the items of a list -/

section

variable {β : Type} {depth : Nat} {fill : Slot ρ → Spaced β → Except Problem (ρ → ρ)}
  {blanks : Bytes}

theorem listEnd_tailed {items : List (Spaced β)} (begins : ∀ item ∈ items, BeginsItem item.text)
    (blank : IsBlank blanks) (rest : Bytes) :
    listEnd (blanks ++ (tailed Ascii.closeBracket (items.map Spaced.bytes) ++ rest)) =
      if items = [] then .ok rest else .error .trailingCharacters := by
  cases items with
  | nil =>
      rw [listEnd, skipBlanks_append blank]
      rfl
  | cons item items =>
      obtain ⟨⟨b, more, htext, noBlank, noBracket⟩, -⟩ := List.forall_mem_cons.mp begins
      have noBlankComma : isBlankByte Ascii.comma = false := rfl
      have noBracketComma : ¬ Ascii.comma = Ascii.closeBracket := by decide
      rw [List.map_cons, tailed, List.cons_append, List.append_assoc, item.bytes_append, listEnd,
        skipBlanks_append blank, skipBlanks_cons noBlankComma]
      dsimp only
      rw [if_neg noBracketComma, if_pos rfl, skipBlanks_append item.blankBefore, htext,
        List.cons_append, skipBlanks_cons noBlank]
      dsimp only
      rw [if_neg noBracket]
      rfl

theorem fillItems_cons {wanted : String} {slot : Slot ρ} {slots : List (Slot ρ)}
    {item : Spaced β} {items : List (Spaced β)} {index : Nat} {input left rest : Bytes}
    (next : nextItem (index = 0) input = .ok (.item (item.text ++ left)))
    (gives : Gives (slot.fill.fromText depth) item.text (fill slot item))
    (ends : EndsNumeral left)
    (others : ∀ record, fillItems wanted depth (index + 1) record slots left =
      (fillInTurn wanted .trailingCharacters fill (index + 1) record slots items).map (·, rest))
    (record : ρ) :
    fillItems wanted depth index record (slot :: slots) input =
      (fillInTurn wanted .trailingCharacters fill index record (slot :: slots)
        (item :: items)).map (·, rest) := by
  have read := gives [] left (List.forall_mem_nil _) ends
  rw [List.nil_append] at read
  simp only [fillItems, next, fillInTurn, bind, Except.bind, read]
  cases fill slot item with
  | error problem => rfl
  | ok set => exact others (set record)

theorem fillItems_tailed (wanted : String) {slots : List (Slot ρ)} {items : List (Spaced β)}
    (gives : ∀ item ∈ items, ∀ slot ∈ slots,
      Gives (slot.fill.fromText depth) item.text (fill slot item))
    (begins : ∀ item ∈ items, BeginsItem item.text) (blank : IsBlank blanks) (rest : Bytes)
    (index : Nat) (record : ρ) :
    fillItems wanted depth (index + 1) record slots
        (blanks ++ (tailed Ascii.closeBracket (items.map Spaced.bytes) ++ rest)) =
      (fillInTurn wanted .trailingCharacters fill (index + 1) record slots items).map
        (·, rest) := by
  induction slots generalizing items blanks index record with
  | nil =>
      rw [fillItems, listEnd_tailed begins blank]
      cases items <;> rfl
  | cons slot slots ih =>
      cases items with
      | nil =>
          rw [fillItems, nextItem_append _ blank]
          change (match tooShort? wanted (index + 1) (slot :: slots) with
            | some problem => throw problem
            | none => pure (record, rest)) = _
          rw [fillInTurn]
          cases tooShort? wanted (index + 1) (slot :: slots) <;> rfl
      | cons item items =>
          obtain ⟨givesFirst, givesRest⟩ := List.forall_mem_cons.mp gives
          obtain ⟨beginsFirst, beginsRest⟩ := List.forall_mem_cons.mp begins
          have ends := endsNumeral_tailed (.inl rfl) (items.map Spaced.bytes) rest
          have others := ih (fun item hitem slot hslot =>
            givesRest item hitem slot (List.mem_cons_of_mem _ hslot)) beginsRest
            item.blankAfter (index + 1)
          refine fillItems_cons ?_ (givesFirst slot List.mem_cons_self)
            (ends.append item.blankAfter) others record
          rw [nextItem_append _ blank, List.map_cons, tailed, List.cons_append,
            List.append_assoc, item.bytes_append]
          exact nextItem_comma item.blankBefore beginsFirst _

theorem fillItems_enclosed {wanted : String} {slot : Slot ρ} {slots : List (Slot ρ)}
    {items : List (Spaced β)}
    (gives : ∀ item ∈ items, ∀ s ∈ slot :: slots,
      Gives (s.fill.fromText depth) item.text (fill s item))
    (begins : ∀ item ∈ items, BeginsItem item.text) (blank : IsBlank blanks) (rest : Bytes)
    (record : ρ) :
    fillItems wanted depth 0 record (slot :: slots)
        (blanks ++ (enclosed Ascii.closeBracket (items.map Spaced.bytes) ++ rest)) =
      (fillInTurn wanted .trailingCharacters fill 0 record (slot :: slots) items).map
        (·, rest) := by
  cases items with
  | nil =>
      rw [fillItems, nextItem_append _ blank]
      change (match tooShort? wanted 0 (slot :: slots) with
        | some problem => throw problem
        | none => pure (record, rest)) = _
      rw [fillInTurn]
      cases tooShort? wanted 0 (slot :: slots) <;> rfl
  | cons item items =>
      obtain ⟨givesFirst, givesRest⟩ := List.forall_mem_cons.mp gives
      obtain ⟨beginsFirst, beginsRest⟩ := List.forall_mem_cons.mp begins
      have ends := endsNumeral_tailed (.inl rfl) (items.map Spaced.bytes) rest
      have others := fillItems_tailed wanted (fun item hitem slot hslot =>
        givesRest item hitem slot (List.mem_cons_of_mem _ hslot)) beginsRest
        item.blankAfter rest 0
      refine fillItems_cons ?_ (givesFirst slot List.mem_cons_self)
        (ends.append item.blankAfter) others record
      rw [nextItem_append _ blank, List.map_cons, enclosed, List.append_assoc,
        item.bytes_append, nextItem_append _ item.blankBefore]
      exact nextItem_first beginsFirst _

end

end Record

/-! ### From either -/

section

variable {ρ : Type} {title : String} {start : ρ} {depth : Nat} {blanks : Bytes}

theorem Schema.gives_record_object {slots : List (Slot ρ)} {β ι κ : Type} (key : ι → Spaced κ)
    (part : ι → Spaced β) {name : ι → Except Problem String}
    {fill : Slot ρ → ι → Except Problem (ρ → ρ)} {members : List ι}
    (fills : ∀ member ∈ members,
      Record.Fills (key member) (part member) slots depth (name member) (fill · member))
    (blank : IsBlank blanks) :
    Gives ((Schema.record title start slots).fromText (depth + 1))
      (Ascii.openBrace :: (blanks ++ enclosed Ascii.closeBrace
        (members.map fun member => assigned (key member) (part member))))
      (Record.fillWith slots name fill [] start members) := by
  refine gives_of_head (fun input => rfl) fun rest _ => ?_
  rw [List.cons_append, List.append_assoc]
  exact Record.fillMembers_enclosed fills (length_lt_members key part members blanks rest)
    blank rest [] start

theorem Schema.gives_record_list {slot : Slot ρ} {slots : List (Slot ρ)} {β : Type}
    {fill : Slot ρ → Spaced β → Except Problem (ρ → ρ)} {items : List (Spaced β)}
    (gives : ∀ item ∈ items, ∀ s ∈ slot :: slots,
      Gives (s.fill.fromText depth) item.text (fill s item))
    (begins : ∀ item ∈ items, BeginsItem item.text) (blank : IsBlank blanks) :
    Gives ((Schema.record title start (slot :: slots)).fromText (depth + 1))
      (Ascii.openBracket :: (blanks ++ enclosed Ascii.closeBracket (items.map Spaced.bytes)))
      (Record.fillInTurn (Record.wanted title (slot :: slots)) .trailingCharacters fill 0 start
        (slot :: slots) items) := by
  refine gives_of_head (fun input => rfl) fun rest _ => ?_
  rw [List.cons_append, List.append_assoc]
  exact Record.fillItems_enclosed gives begins blank rest start

end

end MuxConsole.Json
