import MuxConsole.Proofs.Json.Text
import MuxConsole.Proofs.Json.Whole

/-!
# Values are read as what their texts denote

A list or an object is read item by item: if each of its parts is read with the same
result whatever follows it, so is the whole.  Every text of a value that is nested no
deeper than the reader goes is read as that value, wherever blanks stand in it and
however its characters are written.
-/

namespace MuxConsole.Json

variable {blanks rest : Bytes}

/-! ## Blanks -/

theorem skipBlanks_cons {b : UInt8} {rest : Bytes} (h : isBlankByte b = false) :
    skipBlanks (b :: rest) = b :: rest := by
  simp [skipBlanks, h]

theorem skipBlanks_append (blank : IsBlank blanks) (input : Bytes) :
    skipBlanks (blanks ++ input) = skipBlanks input :=
  List.dropWhile_append_of_pos blank

theorem scanHead_append (blank : IsBlank blanks) (input : Bytes) :
    scanHead (blanks ++ input) = scanHead input := by
  simp only [scanHead, skipBlanks_append blank]

theorem nextItem_append (first : Bool) (blank : IsBlank blanks) (input : Bytes) :
    nextItem first (blanks ++ input) = nextItem first input := by
  simp only [nextItem, skipBlanks_append blank]

theorem nextMember_append (first : Bool) (blank : IsBlank blanks) (input : Bytes) :
    nextMember first (blanks ++ input) = nextMember first input := by
  simp only [nextMember, skipBlanks_append blank]

theorem expectColon_append (blank : IsBlank blanks) (input : Bytes) :
    expectColon (blanks ++ input) = expectColon input := by
  simp only [expectColon, skipBlanks_append blank]

theorem exists_value_eq (depth : Nat) : ∃ inner, value depth = valueWith inner := by
  cases depth with
  | zero => exact ⟨none, rfl⟩
  | succ depth => exact ⟨some (value depth), rfl⟩

theorem value_append {depth : Nat} (blank : IsBlank blanks) (input : Bytes) :
    value depth (blanks ++ input) = value depth input := by
  obtain ⟨inner, hvalue⟩ := exists_value_eq depth
  rw [hvalue, valueWith, valueWith, scanHead_append blank]

theorem EndsNumeral.append (ends : EndsNumeral rest) (blank : IsBlank blanks) :
    EndsNumeral (blanks ++ rest) := by
  cases blanks with
  | nil => exact ends
  | cons b more =>
      rintro _ ⟨⟩
      have hb := blank b List.mem_cons_self
      simp only [isBlankByte, Bool.or_eq_true, decide_eq_true_eq] at hb
      rcases hb with ((rfl | rfl) | rfl) | rfl <;> decide

/-! ## Heads -/

theorem expectWord_append (word rest : Bytes) : expectWord word (word ++ rest) = .ok rest := by
  induction word with
  | nil => rfl
  | cons w word ih => rw [List.cons_append, expectWord, if_pos rfl, ih]

theorem scanHead_null (rest : Bytes) :
    scanHead (Utf8.encode "null" ++ rest) = .ok (.null, rest) := by
  change (expectWord [Ascii.lowerU, Ascii.lowerL, Ascii.lowerL]
    ([Ascii.lowerU, Ascii.lowerL, Ascii.lowerL] ++ rest)).map (Head.null, ·) = _
  rw [expectWord_append]
  rfl

theorem scanHead_bool (b : Bool) (rest : Bytes) :
    scanHead (Utf8.encodeChars (renderBool b) ++ rest) = .ok (.bool b, rest) := by
  cases b with
  | true =>
      change (expectWord [Ascii.lowerR, Ascii.lowerU, Ascii.lowerE]
        ([Ascii.lowerR, Ascii.lowerU, Ascii.lowerE] ++ rest)).map (Head.bool true, ·) = _
      rw [expectWord_append]
      rfl
  | false =>
      change (expectWord [Ascii.lowerA, Ascii.lowerL, Ascii.lowerS, Ascii.lowerE]
        ([Ascii.lowerA, Ascii.lowerL, Ascii.lowerS, Ascii.lowerE] ++ rest)).map
          (Head.bool false, ·) = _
      rw [expectWord_append]
      rfl

abbrev BeginsNumeral (b : UInt8) : Prop := b = Ascii.minus ∨ Ascii.isDigit b = true

theorem exists_renderWhole_eq_cons (n : Int) :
    ∃ b more, Utf8.encodeChars (renderWhole n) = b :: more ∧ BeginsNumeral b := by
  rw [encodeChars_renderWhole]
  split
  · exact ⟨_, _, rfl, .inl rfl⟩
  · obtain ⟨b, more, hdigits, isDigit⟩ := exists_digits_eq_cons n.natAbs
    exact ⟨b, more, hdigits, .inr isDigit⟩

theorem BeginsNumeral.ne {b c : UInt8} (h : BeginsNumeral b)
    (other : c ≠ Ascii.minus ∧ Ascii.isDigit c = false) : b ≠ c := by
  rintro rfl
  rcases h with rfl | isDigit
  · exact other.1 rfl
  · rw [other.2] at isDigit
    cases isDigit

theorem BeginsNumeral.noBlank {b : UInt8} (h : BeginsNumeral b) : isBlankByte b = false := by
  simp only [isBlankByte, Bool.or_eq_false_iff, decide_eq_false_iff_not]
  exact ⟨⟨⟨h.ne (by decide), h.ne (by decide)⟩, h.ne (by decide)⟩, h.ne (by decide)⟩

theorem scanHead_whole {n : Int} (inRange : IsWord n) {rest : Bytes} (ends : EndsNumeral rest) :
    scanHead (Utf8.encodeChars (renderWhole n) ++ rest) =
      .ok (.number (.whole n inRange), rest) := by
  have scanned := scanNumber_renderWhole n inRange ends
  obtain ⟨b, more, hrender, begins⟩ := exists_renderWhole_eq_cons n
  rw [hrender, List.cons_append] at scanned ⊢
  rw [scanHead, skipBlanks_cons begins.noBlank]
  dsimp only
  rw [if_neg (begins.ne (by decide)), if_neg (begins.ne (by decide)),
    if_neg (begins.ne (by decide)), if_pos begins, scanned]
  rfl

theorem scanHead_quoted {quoted : Bytes} {result : Except Problem String}
    (spells : Spells quoted result) (rest : Bytes) :
    scanHead (quoted ++ rest) = result.map fun s => (.text s, rest) := by
  obtain ⟨body, rfl, read⟩ := spells
  change (textBody (body ++ rest) >>= _) = _
  rw [read]
  cases result <;> rfl

/-! ## Lists and objects -/

theorem length_lt_tailed (close : UInt8) (items : List Bytes) :
    items.length < (tailed close items).length := by
  induction items with
  | nil => exact Nat.one_pos
  | cons item rest ih =>
      rw [tailed, List.length_cons, List.length_cons, List.length_append]
      omega

theorem length_lt_enclosed (close : UInt8) {items : List Bytes}
    (nonempty : ∀ item ∈ items, item ≠ []) : items.length < (enclosed close items).length := by
  cases items with
  | nil => exact Nat.one_pos
  | cons item rest =>
      have long := length_lt_tailed close rest
      have first := List.length_pos_iff.mpr (nonempty item List.mem_cons_self)
      rw [enclosed, List.length_cons, List.length_append]
      omega

theorem endsNumeral_tailed {close : UInt8}
    (h : close = Ascii.closeBracket ∨ close = Ascii.closeBrace) (items : List Bytes)
    (rest : Bytes) : EndsNumeral (tailed close items ++ rest) := by
  cases items with
  | nil =>
      rintro _ ⟨⟩
      rcases h with rfl | rfl <;> decide
  | cons item items =>
      rintro _ ⟨⟩
      decide

def BeginsItem (text : Bytes) : Prop :=
  ∃ b more, text = b :: more ∧ isBlankByte b = false ∧ b ≠ Ascii.closeBracket

theorem nextItem_first {text : Bytes} (begins : BeginsItem text) (left : Bytes) :
    nextItem true (text ++ left) = .ok (.item (text ++ left)) := by
  obtain ⟨b, more, rfl, noBlank, noBracket⟩ := begins
  rw [List.cons_append, nextItem, skipBlanks_cons noBlank]
  dsimp only
  rw [if_neg noBracket, if_pos rfl]

theorem nextItem_comma {before text : Bytes} (blank : IsBlank before) (begins : BeginsItem text)
    (left : Bytes) :
    nextItem false (Ascii.comma :: (before ++ (text ++ left))) = .ok (.item (text ++ left)) := by
  obtain ⟨b, more, rfl, noBlank, noBracket⟩ := begins
  have noBlankComma : isBlankByte Ascii.comma = false := rfl
  have noBracketComma : ¬ Ascii.comma = Ascii.closeBracket := by decide
  rw [nextItem, skipBlanks_cons noBlankComma]
  dsimp only
  rw [if_neg noBracketComma, if_neg Bool.false_ne_true, if_pos rfl, skipBlanks_append blank,
    List.cons_append, skipBlanks_cons noBlank]
  dsimp only
  rw [if_neg noBracket]

theorem nextMember_first {quoted : Bytes} {name : Except Problem String}
    (spells : Spells quoted name) (left : Bytes) :
    nextMember true (quoted ++ left) = name.map (.member · left) := by
  obtain ⟨body, rfl, read⟩ := spells
  change (textBody (body ++ left)).map _ = _
  rw [read]
  cases name <;> rfl

theorem nextMember_comma {before quoted : Bytes} {name : Except Problem String}
    (blank : IsBlank before) (spells : Spells quoted name) (left : Bytes) :
    nextMember false (Ascii.comma :: (before ++ (quoted ++ left))) =
      name.map (.member · left) := by
  obtain ⟨body, rfl, read⟩ := spells
  have noBlankComma : isBlankByte Ascii.comma = false := rfl
  have noBlankQuote : isBlankByte Ascii.quote = false := rfl
  have noBraceComma : ¬ Ascii.comma = Ascii.closeBrace := by decide
  rw [nextMember, skipBlanks_cons noBlankComma]
  dsimp only
  rw [if_neg noBraceComma, if_neg Bool.false_ne_true, if_pos rfl, skipBlanks_append blank,
    List.cons_append, skipBlanks_cons noBlankQuote]
  dsimp only
  rw [if_pos rfl, read]
  cases name <;> rfl

section

variable {α β : Type} {read : Reader α}

/-- The text is read with this result, whatever goes on after it. -/
def Gives (read : Reader α) (text : Bytes) (result : Except Problem α) : Prop :=
  ∀ blanks rest, IsBlank blanks → EndsNumeral rest →
    read (blanks ++ (text ++ rest)) = result.map (·, rest)

/-! ### Items -/

theorem Spaced.bytes_append (item : Spaced β) (left : Bytes) :
    item.bytes ++ left = item.before ++ (item.text ++ (item.after ++ left)) := by
  simp only [bytes, List.append_assoc]

theorem itemsFrom_cons {text : Bytes} {x : Except Problem α} {xs : Except Problem (List α)}
    {first : Bool} {clock input left rest : Bytes}
    (next : nextItem first input = .ok (.item (text ++ left)))
    (gives : Gives read text x) (ends : EndsNumeral left)
    (others : itemsFrom read false clock left = xs.map (·, rest)) (tick : UInt8) :
    itemsFrom read first (tick :: clock) input =
      (do return (← x) :: (← xs) : Except Problem (List α)).map (·, rest) := by
  have hread := gives [] left (List.forall_mem_nil _) ends
  rw [itemsFrom, next]
  change (read ([] ++ (text ++ left)) >>= _) = _
  rw [hread]
  cases x with
  | error problem => rfl
  | ok x =>
      change (itemsFrom read false clock left >>= _) = _
      rw [others]
      cases xs <;> rfl

variable {result : Spaced β → Except Problem α}

theorem itemsFrom_tailed {items : List (Spaced β)}
    (gives : ∀ item ∈ items, Gives read item.text (result item))
    (begins : ∀ item ∈ items, BeginsItem item.text) {clock : Bytes}
    (long : items.length < clock.length) (blank : IsBlank blanks) (rest : Bytes) :
    itemsFrom read false clock
        (blanks ++ (tailed Ascii.closeBracket (items.map Spaced.bytes) ++ rest)) =
      (items.mapM result).map (·, rest) := by
  induction items generalizing clock blanks with
  | nil =>
      cases clock with
      | nil => cases long
      | cons _ clock =>
          rw [itemsFrom, nextItem_append _ blank]
          rfl
  | cons item items ih =>
      cases clock with
      | nil => cases long
      | cons tick clock =>
          obtain ⟨givesFirst, givesRest⟩ := List.forall_mem_cons.mp gives
          obtain ⟨beginsFirst, beginsRest⟩ := List.forall_mem_cons.mp begins
          have ends := endsNumeral_tailed (.inl rfl) (items.map Spaced.bytes) rest
          have others := ih givesRest beginsRest (Nat.lt_of_succ_lt_succ long) item.blankAfter
          rw [List.mapM_cons]
          refine itemsFrom_cons ?_ givesFirst (ends.append item.blankAfter) others tick
          rw [nextItem_append _ blank, List.map_cons, tailed, List.cons_append,
            List.append_assoc, item.bytes_append]
          exact nextItem_comma item.blankBefore beginsFirst _

theorem itemsFrom_enclosed {items : List (Spaced β)}
    (gives : ∀ item ∈ items, Gives read item.text (result item))
    (begins : ∀ item ∈ items, BeginsItem item.text) {clock : Bytes}
    (long : items.length < clock.length) (blank : IsBlank blanks) (rest : Bytes) :
    itemsFrom read true clock
        (blanks ++ (enclosed Ascii.closeBracket (items.map Spaced.bytes) ++ rest)) =
      (items.mapM result).map (·, rest) := by
  cases clock with
  | nil => cases long
  | cons tick clock =>
      cases items with
      | nil =>
          rw [itemsFrom, nextItem_append _ blank]
          rfl
      | cons item items =>
          obtain ⟨givesFirst, givesRest⟩ := List.forall_mem_cons.mp gives
          obtain ⟨beginsFirst, beginsRest⟩ := List.forall_mem_cons.mp begins
          have ends := endsNumeral_tailed (.inl rfl) (items.map Spaced.bytes) rest
          have others := itemsFrom_tailed givesRest beginsRest (Nat.lt_of_succ_lt_succ long)
            item.blankAfter rest
          rw [List.mapM_cons]
          refine itemsFrom_cons ?_ givesFirst (ends.append item.blankAfter) others tick
          rw [nextItem_append _ blank, List.map_cons, enclosed, List.append_assoc,
            item.bytes_append, nextItem_append _ item.blankBefore]
          exact nextItem_first beginsFirst _

theorem length_lt_items {items : List (Spaced β)} (begins : ∀ item ∈ items, BeginsItem item.text)
    (blanks rest : Bytes) :
    items.length < (blanks ++
      (enclosed Ascii.closeBracket (items.map Spaced.bytes) ++ rest)).length := by
  have nonempty : ∀ bytes ∈ items.map Spaced.bytes, bytes ≠ [] := by
    intro bytes hbytes
    obtain ⟨item, hitem, rfl⟩ := List.mem_map.mp hbytes
    obtain ⟨b, more, htext, _⟩ := begins item hitem
    simp [Spaced.bytes, htext]
  have long := length_lt_enclosed Ascii.closeBracket nonempty
  rw [List.length_map] at long
  rw [List.length_append, List.length_append]
  omega

theorem items_enclosed {items : List (Spaced β)}
    (gives : ∀ item ∈ items, Gives read item.text (result item))
    (begins : ∀ item ∈ items, BeginsItem item.text) (blank : IsBlank blanks) (rest : Bytes) :
    Json.items read
        (blanks ++ (enclosed Ascii.closeBracket (items.map Spaced.bytes) ++ rest)) =
      (items.mapM result).map (·, rest) :=
  itemsFrom_enclosed gives begins (length_lt_items begins blanks rest) blank rest

/-! ### Members -/

end

def both {α : Type} (name : Except Problem String) (x : Except Problem α) :
    Except Problem (String × α) := do
  return (← name, ← x)

def assigned {κ β : Type} (key : Spaced κ) (value : Spaced β) : Bytes :=
  key.bytes ++ Ascii.colon :: value.bytes

section

variable {α β ι κ : Type} {read : Reader α} {key : ι → Spaced κ} {value : ι → Spaced β}
  {name : ι → Except Problem String} {result : ι → Except Problem α}

theorem assigned_append (key : Spaced κ) (value : Spaced β) (left : Bytes) :
    assigned key value ++ left =
      key.before ++ (key.text ++ (key.after ++
        Ascii.colon :: (value.before ++ (value.text ++ (value.after ++ left))))) := by
  rw [assigned, List.append_assoc, key.bytes_append, List.cons_append, value.bytes_append]

theorem assigned_ne_nil (key : Spaced κ) (value : Spaced β) : assigned key value ≠ [] :=
  List.append_ne_nil_of_right_ne_nil _ (List.cons_ne_nil _ _)

theorem expectColon_assigned (key : Spaced κ) (input : Bytes) :
    expectColon (key.after ++ Ascii.colon :: input) = .ok input :=
  expectColon_append key.blankAfter (Ascii.colon :: input)

theorem nextMember_enclosed {key : Spaced κ} {name : Except Problem String}
    (spells : Spells key.text name) (value : Spaced β) (blank : IsBlank blanks) (left : Bytes) :
    nextMember true (blanks ++ (assigned key value ++ left)) =
      name.map (.member · (key.after ++
        Ascii.colon :: (value.before ++ (value.text ++ (value.after ++ left))))) := by
  rw [nextMember_append _ blank, assigned_append, nextMember_append _ key.blankBefore]
  exact nextMember_first spells _

theorem nextMember_tailed {key : Spaced κ} {name : Except Problem String}
    (spells : Spells key.text name) (value : Spaced β) (blank : IsBlank blanks) (left : Bytes) :
    nextMember false (blanks ++ Ascii.comma :: (assigned key value ++ left)) =
      name.map (.member · (key.after ++
        Ascii.colon :: (value.before ++ (value.text ++ (value.after ++ left))))) := by
  rw [nextMember_append _ blank, assigned_append]
  exact nextMember_comma key.blankBefore spells _

theorem membersFrom_cons (key : Spaced κ) (value : Spaced β) {name : Except Problem String}
    {x : Except Problem α} {xs : Except Problem (List (String × α))} {first : Bool}
    {clock input left rest : Bytes}
    (next : nextMember first input =
      name.map (.member · (key.after ++
        Ascii.colon :: (value.before ++ (value.text ++ left)))))
    (gives : Gives read value.text x) (ends : EndsNumeral left)
    (others : membersFrom read false clock left = xs.map (·, rest)) (tick : UInt8) :
    membersFrom read first (tick :: clock) input =
      (do return (← both name x) :: (← xs) : Except Problem (List (String × α))).map
        (·, rest) := by
  have hread := gives _ left value.blankBefore ends
  rw [membersFrom, next]
  cases name with
  | error problem => rfl
  | ok name =>
      change (expectColon _ >>= _) = _
      rw [expectColon_assigned]
      change (read (value.before ++ (value.text ++ left)) >>= _) = _
      rw [hread]
      cases x with
      | error problem => rfl
      | ok x =>
          change (membersFrom read false clock left >>= _) = _
          rw [others]
          cases xs <;> rfl

theorem membersFrom_tailed {members : List ι}
    (keys : ∀ member ∈ members, Spells (key member).text (name member))
    (gives : ∀ member ∈ members, Gives read (value member).text (result member))
    {clock : Bytes} (long : members.length < clock.length) (blank : IsBlank blanks)
    (rest : Bytes) :
    membersFrom read false clock (blanks ++ (tailed Ascii.closeBrace
        (members.map fun member => assigned (key member) (value member)) ++ rest)) =
      (members.mapM fun member => both (name member) (result member)).map (·, rest) := by
  induction members generalizing clock blanks with
  | nil =>
      cases clock with
      | nil => cases long
      | cons _ clock =>
          rw [membersFrom, nextMember_append _ blank]
          rfl
  | cons member members ih =>
      cases clock with
      | nil => cases long
      | cons tick clock =>
          obtain ⟨spells, keysRest⟩ := List.forall_mem_cons.mp keys
          obtain ⟨givesFirst, givesRest⟩ := List.forall_mem_cons.mp gives
          have ends := endsNumeral_tailed (.inr rfl)
            (members.map fun member => assigned (key member) (value member)) rest
          have others := ih keysRest givesRest (Nat.lt_of_succ_lt_succ long)
            (value member).blankAfter
          rw [List.mapM_cons]
          refine membersFrom_cons (key member) (value member) ?_ givesFirst
            (ends.append (value member).blankAfter) others tick
          rw [List.map_cons, tailed, List.cons_append, List.append_assoc]
          exact nextMember_tailed spells (value member) blank _

theorem membersFrom_enclosed {members : List ι}
    (keys : ∀ member ∈ members, Spells (key member).text (name member))
    (gives : ∀ member ∈ members, Gives read (value member).text (result member))
    {clock : Bytes} (long : members.length < clock.length) (blank : IsBlank blanks)
    (rest : Bytes) :
    membersFrom read true clock (blanks ++ (enclosed Ascii.closeBrace
        (members.map fun member => assigned (key member) (value member)) ++ rest)) =
      (members.mapM fun member => both (name member) (result member)).map (·, rest) := by
  cases clock with
  | nil => cases long
  | cons tick clock =>
      cases members with
      | nil =>
          rw [membersFrom, nextMember_append _ blank]
          rfl
      | cons member members =>
          obtain ⟨spells, keysRest⟩ := List.forall_mem_cons.mp keys
          obtain ⟨givesFirst, givesRest⟩ := List.forall_mem_cons.mp gives
          have ends := endsNumeral_tailed (.inr rfl)
            (members.map fun member => assigned (key member) (value member)) rest
          have others := membersFrom_tailed keysRest givesRest (Nat.lt_of_succ_lt_succ long)
            (value member).blankAfter rest
          rw [List.mapM_cons]
          refine membersFrom_cons (key member) (value member) ?_ givesFirst
            (ends.append (value member).blankAfter) others tick
          rw [List.map_cons, enclosed, List.append_assoc]
          exact nextMember_enclosed spells (value member) blank _

theorem length_lt_members (key : ι → Spaced κ) (value : ι → Spaced β) (members : List ι)
    (blanks rest : Bytes) :
    members.length < (blanks ++ (enclosed Ascii.closeBrace
      (members.map fun member => assigned (key member) (value member)) ++ rest)).length := by
  have nonempty : ∀ bytes ∈ members.map fun member => assigned (key member) (value member),
      bytes ≠ [] := by
    intro bytes hbytes
    obtain ⟨member, _, rfl⟩ := List.mem_map.mp hbytes
    exact assigned_ne_nil _ _
  have long := length_lt_enclosed Ascii.closeBrace nonempty
  rw [List.length_map] at long
  rw [List.length_append, List.length_append]
  omega

theorem members_enclosed {members : List ι}
    (keys : ∀ member ∈ members, Spells (key member).text (name member))
    (gives : ∀ member ∈ members, Gives read (value member).text (result member))
    (blank : IsBlank blanks) (rest : Bytes) :
    Json.members read (blanks ++ (enclosed Ascii.closeBrace
        (members.map fun member => assigned (key member) (value member)) ++ rest)) =
      (members.mapM fun member => both (name member) (result member)).map (·, rest) :=
  membersFrom_enclosed keys gives (length_lt_members key value members blanks rest) blank rest

end

/-! ## Values -/

theorem beginsItem_of_denotes {depth : Nat} {text : Bytes} {j : Json}
    (denotes : Denotes depth text j) : BeginsItem text := by
  cases denotes with
  | null => exact ⟨Ascii.lowerN, _, rfl, by decide⟩
  | bool b =>
      cases b with
      | true => exact ⟨Ascii.lowerT, _, rfl, by decide⟩
      | false => exact ⟨Ascii.lowerF, _, rfl, by decide⟩
  | @number _ n inRange =>
      obtain ⟨b, more, hrender, begins⟩ := exists_renderWhole_eq_cons n
      exact ⟨b, more, hrender, begins.noBlank, begins.ne (by decide)⟩
  | text h =>
      obtain ⟨body, _, rfl⟩ := h
      exact ⟨_, _, rfl, by decide⟩
  | list => exact ⟨_, _, rfl, by decide⟩
  | object => exact ⟨_, _, rfl, by decide⟩

theorem value_of_scanHead {depth : Nat} {input rest : Bytes} {j : Json}
    (scalar : ∀ items, j ≠ .list items) (noObject : ∀ members, j ≠ .object members)
    (h : scanHead input = .ok (head j, rest)) : value depth input = .ok (j, rest) := by
  obtain ⟨inner, hvalue⟩ := exists_value_eq depth
  rw [hvalue, valueWith, h]
  cases j with
  | list items => exact absurd rfl (scalar items)
  | object members => exact absurd rfl (noObject members)
  | _ => rfl

theorem gives_value {depth : Nat} {text : Bytes} {result : Except Problem Json}
    (h : ∀ rest, EndsNumeral rest → value depth (text ++ rest) = result.map (·, rest)) :
    Gives (value depth) text result := by
  intro blanks rest blank ends
  rw [value_append blank, h rest ends]

theorem gives_of_scanHead {depth : Nat} {text : Bytes} {j : Json}
    (scalar : ∀ items, j ≠ .list items) (noObject : ∀ members, j ≠ .object members)
    (h : ∀ rest, EndsNumeral rest → scanHead (text ++ rest) = .ok (head j, rest)) :
    Gives (value depth) text (.ok j) :=
  gives_value fun rest ends => value_of_scanHead scalar noObject (h rest ends)

theorem gives_list {depth : Nat} {β : Type} {items : List (Spaced β)}
    {result : Spaced β → Except Problem Json}
    (gives : ∀ item ∈ items, Gives (value depth) item.text (result item))
    (begins : ∀ item ∈ items, BeginsItem item.text) (blank : IsBlank blanks) :
    Gives (value (depth + 1))
      (Ascii.openBracket :: (blanks ++ enclosed Ascii.closeBracket (items.map Spaced.bytes)))
      ((items.mapM result).map .list) := by
  refine gives_value fun rest _ => ?_
  have read := items_enclosed gives begins blank rest
  rw [List.cons_append, List.append_assoc]
  change (Json.items (value depth) _ >>= _) = _
  rw [read]
  cases items.mapM result <;> rfl

theorem gives_object {depth : Nat} {β ι κ : Type} (key : ι → Spaced κ) (part : ι → Spaced β)
    {name : ι → Except Problem String} {result : ι → Except Problem Json} {members : List ι}
    (keys : ∀ member ∈ members, Spells (key member).text (name member))
    (gives : ∀ member ∈ members, Gives (value depth) (part member).text (result member))
    (blank : IsBlank blanks) :
    Gives (value (depth + 1))
      (Ascii.openBrace :: (blanks ++ enclosed Ascii.closeBrace
        (members.map fun member => assigned (key member) (part member))))
      ((members.mapM fun member => both (name member) (result member)).map
        fun found => .object (Members.collect found)) := by
  refine gives_value fun rest _ => ?_
  have read := members_enclosed keys gives blank rest
  rw [List.cons_append, List.append_assoc]
  change (Json.members (value depth) _ >>= _) = _
  rw [read]
  cases members.mapM (fun member => both (name member) (result member)) <;> rfl

theorem mapM_ok {ε α β : Type} (f : α → β) (xs : List α) :
    xs.mapM (fun x => (Except.ok (f x) : Except ε β)) = .ok (xs.map f) :=
  List.mapM_pure

theorem gives_of_denotes {depth : Nat} {text : Bytes} {j : Json} (denotes : Denotes depth text j) :
    Gives (value depth) text (.ok j) := by
  induction denotes with
  | null => exact gives_of_scanHead nofun nofun fun rest _ => scanHead_null rest
  | bool b => exact gives_of_scanHead nofun nofun fun rest _ => scanHead_bool b rest
  | number inRange =>
      exact gives_of_scanHead nofun nofun fun rest ends => scanHead_whole inRange ends
  | text h =>
      exact gives_of_scanHead nofun nofun fun rest _ => scanHead_quoted (spells_of_denotes h) rest
  | list blank each ih =>
      have gives := gives_list ih (fun item h => beginsItem_of_denotes (each item h)) blank
      rw [mapM_ok Spaced.content] at gives
      exact gives
  | @object depth _ members blank keys _ ih =>
      have gives := gives_object Assigned.key Assigned.value
        (fun member h => spells_of_denotes (keys member h)) ih blank
      have found : members.mapM (fun member =>
          both (.ok member.key.content) (.ok member.value.content)) =
            .ok (members.map Assigned.content) := mapM_ok Assigned.content members
      rw [found] at gives
      exact gives

/-- A text on its own, with blanks around it, is read like one with something after it. -/
theorem whole_of_gives {α β : Type} {read : Reader α} {whole : Spaced β}
    {result : Except Problem α} (gives : Gives read whole.text result) :
    Json.whole read whole.bytes = result := by
  have ends : EndsNumeral (whole.after ++ []) := EndsNumeral.append nofun whole.blankAfter
  have last : skipBlanks (whole.after ++ []) = [] := skipBlanks_append whole.blankAfter []
  rw [List.append_nil] at ends last
  have hread := gives _ _ whole.blankBefore ends
  change read whole.bytes = _ at hread
  rw [Json.whole, hread]
  cases result with
  | error problem => rfl
  | ok x =>
      simp only [Except.map, bind, Except.bind, last]
      rfl

/-- The reader reads every text of a value as that value. -/
theorem parse_of_isTextOf {bytes : Bytes} {j : Json} (h : IsTextOf bytes j) :
    parse bytes = .ok j := by
  obtain ⟨whole, rfl, rfl, denotes⟩ := h
  exact whole_of_gives (gives_of_denotes denotes)

end MuxConsole.Json
