import MuxConsole.Proofs.Json.Meaning
import MuxConsole.Proofs.Json.Steady

/-!
# A text means one value only

The first byte of a text gives the kind of its value, and every text shows its own end, a
numeral by what it goes on with.  So two texts that begin the same input are the same text,
and no text means two values.
-/

namespace MuxConsole.Json

variable {rest rest' : Bytes}

/-! ## Numbers -/

theorem Numeral.Means.unique {n : Numeral} {value other : Number} (h : n.Means value)
    (h' : n.Means other) : value = other := by
  cases h with
  | word h =>
      cases h' with
      | word h' => exact Option.some.inj (h.symm.trans h')
      | double noWord => cases h.symm.trans noWord
  | double noWord sign _ nearest =>
      cases h' with
      | word h' => cases h'.symm.trans noWord
      | double _ sign' _ nearest' => rw [nearest.unique nearest' (sign.trans sign'.symm)]

theorem numeral_append {text : Bytes} {n : Numeral} (form : IsNumeral text) {atEnd : Problem}
    (read : numeral atEnd text = .ok (n, [])) (ends : EndsNumeral rest) :
    numeral atEnd (text ++ rest) = .ok (n, rest) := by
  obtain ⟨found, reads⟩ := form.exists_numeral
  have alone := reads atEnd [] Numeral.endsNumeral_nil
  rw [List.append_nil, read] at alone
  cases alone
  exact reads atEnd rest ends

/-! ## Kinds of values -/

inductive Kind where
  | null | bool | number | text | list | object

def kind : Json → Kind
  | .null => .null
  | .bool _ => .bool
  | .number _ => .number
  | .text _ => .text
  | .list _ => .list
  | .object _ => .object

def kindOf (b : UInt8) : Kind :=
  if b = Ascii.lowerN then .null
  else if b = Ascii.lowerT ∨ b = Ascii.lowerF then .bool
  else if b = Ascii.quote then .text
  else if b = Ascii.openBracket then .list
  else if b = Ascii.openBrace then .object
  else .number

theorem kindOf_begins {b : UInt8} (begins : BeginsNumeral b) : kindOf b = .number := by
  unfold kindOf
  rw [if_neg (begins.ne (by decide)), if_neg, if_neg (begins.ne (by decide)),
    if_neg (begins.ne (by decide)), if_neg (begins.ne (by decide))]
  exact not_or.mpr ⟨begins.ne (by decide), begins.ne (by decide)⟩

theorem Means.exists_cons {text : Bytes} {j : Json} (h : Means text j) :
    ∃ b more, text = b :: more ∧ kindOf b = kind j ∧ isBlankByte b = false ∧
      b ≠ Ascii.closeBracket := by
  cases h with
  | null => exact ⟨_, _, rfl, rfl, by decide⟩
  | bool b => cases b <;> exact ⟨_, _, rfl, rfl, by decide⟩
  | number form =>
      obtain ⟨b, more, hcons, begins⟩ := form.exists_cons
      exact ⟨b, more, hcons, kindOf_begins begins, begins.noBlank, begins.ne (by decide)⟩
  | text h =>
      obtain ⟨_, _, rfl⟩ := h
      exact ⟨_, _, rfl, rfl, by decide⟩
  | list => exact ⟨_, _, rfl, rfl, by decide⟩
  | object => exact ⟨_, _, rfl, rfl, by decide⟩

theorem Means.kind_eq {text text' : Bytes} {j j' : Json} (h : Means text j)
    (h' : Means text' j') (same : text ++ rest = text' ++ rest') : kind j = kind j' := by
  obtain ⟨b, more, rfl, hkind, -⟩ := h.exists_cons
  obtain ⟨b', more', rfl, hkind', -⟩ := h'.exists_cons
  cases (List.cons.inj same).1
  exact hkind.symm.trans hkind'

/-! ## Lists and objects -/

section

variable {ι α : Type} {close : UInt8}

def Stops (rest : Bytes) : Prop :=
  EndsNumeral rest ∧ ∃ b more, rest = b :: more ∧ isBlankByte b = false

theorem stops_cons {b : UInt8} (noBlank : isBlankByte b = false)
    (ends : Ascii.isDigit b = false ∧ b ≠ Ascii.dot ∧ b ≠ Ascii.lowerE ∧ b ≠ Ascii.upperE)
    (more : Bytes) : Stops (b :: more) := by
  refine ⟨?_, b, more, rfl, noBlank⟩
  rintro _ ⟨⟩
  exact ends

theorem Stops.skipBlanks_append (stops : Stops rest) {blanks : Bytes} (blank : IsBlank blanks) :
    skipBlanks (blanks ++ rest) = rest := by
  obtain ⟨_, b, more, rfl, noBlank⟩ := stops
  rw [Json.skipBlanks_append blank, skipBlanks_cons noBlank]

theorem stops_tailed (hclose : close = Ascii.closeBracket ∨ close = Ascii.closeBrace)
    (items : List Bytes) (rest : Bytes) : Stops (tailed close items ++ rest) := by
  cases items with
  | nil => rcases hclose with rfl | rfl <;> exact stops_cons (by decide) (by decide) _
  | cons item items => exact stops_cons (by decide) (by decide) _

/-- An input that goes on with the one part or with the other has one content and one rest. -/
def Coincide (part part' : Bytes × α) : Prop :=
  ∀ rest rest', Stops rest → Stops rest' →
    skipBlanks (part.1 ++ rest) = skipBlanks (part'.1 ++ rest') → part.2 = part'.2 ∧ rest = rest'

def Begins (close : UInt8) (part : Bytes × α) : Prop :=
  ∀ rest, ∃ b more, skipBlanks (part.1 ++ rest) = b :: more ∧ b ≠ close

theorem Coincide.next {part part' : Bytes × α} (coincide : Coincide part part')
    (hclose : close = Ascii.closeBracket ∨ close = Ascii.closeBrace) {items items' : List Bytes}
    (same : skipBlanks (part.1 ++ tailed close items ++ rest) =
      skipBlanks (part'.1 ++ tailed close items' ++ rest')) :
    part.2 = part'.2 ∧ tailed close items ++ rest = tailed close items' ++ rest' := by
  rw [List.append_assoc, List.append_assoc] at same
  exact coincide _ _ (stops_tailed hclose items rest) (stops_tailed hclose items' rest') same

theorem coincide_tailed (hclose : close = Ascii.closeBracket ∨ close = Ascii.closeBrace)
    (bytes : ι → Bytes) (content : ι → α) {items items' : List ι}
    (coincide : ∀ x ∈ items, ∀ x' ∈ items', Coincide (bytes x, content x) (bytes x', content x'))
    (same : tailed close (items.map bytes) ++ rest = tailed close (items'.map bytes) ++ rest') :
    items.map content = items'.map content ∧ rest = rest' := by
  have noComma : close ≠ Ascii.comma := by rcases hclose with rfl | rfl <;> decide
  induction items generalizing items' with
  | nil =>
      cases items' with
      | nil => exact ⟨rfl, List.append_cancel_left same⟩
      | cons x' items' => exact absurd (List.cons.inj same).1 noComma
  | cons x items ih =>
      cases items' with
      | nil => exact absurd (List.cons.inj same).1.symm noComma
      | cons x' items' =>
          have first := coincide x List.mem_cons_self x' List.mem_cons_self
          obtain ⟨inside, left⟩ := first.next hclose (congrArg skipBlanks (List.cons.inj same).2)
          obtain ⟨others, ends⟩ := ih (fun x hx x' hx' =>
            coincide x (List.mem_cons_of_mem _ hx) x' (List.mem_cons_of_mem _ hx')) left
          exact ⟨congrArg₂ List.cons inside others, ends⟩

theorem Begins.not_closed {part : Bytes × α} (begins : Begins close part)
    (hclose : close = Ascii.closeBracket ∨ close = Ascii.closeBrace) (left : Bytes) :
    skipBlanks (part.1 ++ left) ≠ skipBlanks (close :: rest) := by
  have noBlank : isBlankByte close = false := by rcases hclose with rfl | rfl <;> decide
  obtain ⟨b, more, hcons, apart⟩ := begins left
  rw [hcons, skipBlanks_cons noBlank]
  exact fun same => apart (List.cons.inj same).1

theorem coincide_enclosed (hclose : close = Ascii.closeBracket ∨ close = Ascii.closeBrace)
    (bytes : ι → Bytes) (content : ι → α) {items items' : List ι}
    (coincide : ∀ x ∈ items, ∀ x' ∈ items', Coincide (bytes x, content x) (bytes x', content x'))
    (begins : ∀ x ∈ items ++ items', Begins close (bytes x, content x))
    {blanks blanks' : Bytes} (blank : IsBlank blanks) (blank' : IsBlank blanks')
    (same : blanks ++ enclosed close (items.map bytes) ++ rest =
      blanks' ++ enclosed close (items'.map bytes) ++ rest') :
    items.map content = items'.map content ∧ rest = rest' := by
  have after := congrArg skipBlanks same
  rw [List.append_assoc, List.append_assoc, skipBlanks_append blank,
    skipBlanks_append blank'] at after
  cases items with
  | nil =>
      cases items' with
      | nil =>
          have closed := stops_tailed hclose [] rest
          have closed' := stops_tailed hclose [] rest'
          have ends := (closed.skipBlanks_append isBlank_nil).symm.trans
            (after.trans (closed'.skipBlanks_append isBlank_nil))
          exact ⟨rfl, List.append_cancel_left ends⟩
      | cons x' items' =>
          have first := begins x' List.mem_cons_self
          refine absurd after.symm ?_
          rw [List.map_cons, enclosed, List.append_assoc]
          exact first.not_closed hclose _
  | cons x items =>
      cases items' with
      | nil =>
          have first := begins x (List.mem_append_left _ List.mem_cons_self)
          refine absurd after ?_
          rw [List.map_cons, enclosed, List.append_assoc]
          exact first.not_closed hclose _
      | cons x' items' =>
          have first := coincide x List.mem_cons_self x' List.mem_cons_self
          obtain ⟨inside, left⟩ := first.next hclose after
          obtain ⟨others, ends⟩ := coincide_tailed hclose bytes content (fun x hx x' hx' =>
            coincide x (List.mem_cons_of_mem _ hx) x' (List.mem_cons_of_mem _ hx')) left
          exact ⟨congrArg₂ List.cons inside others, ends⟩

/-! ### Items and members -/

/-- An input that begins with both texts, and cannot go on with a numeral, has one content and
one rest. -/
def SameStart (part part' : Bytes × α) : Prop :=
  ∀ rest rest', EndsNumeral rest → EndsNumeral rest' → part.1 ++ rest = part'.1 ++ rest' →
    part.2 = part'.2 ∧ rest = rest'

def Opens (close : UInt8) (text : Bytes) : Prop :=
  ∃ b more, text = b :: more ∧ isBlankByte b = false ∧ b ≠ close

theorem skipBlanks_spaced {item : Spaced α} (opens : Opens close item.text) (rest : Bytes) :
    skipBlanks (item.bytes ++ rest) = item.text ++ (item.after ++ rest) := by
  obtain ⟨b, more, hcons, noBlank, -⟩ := opens
  rw [Spaced.bytes_append, skipBlanks_append item.blankBefore, hcons, List.cons_append,
    skipBlanks_cons noBlank]

theorem Spaced.begins {item : Spaced α} (opens : Opens close item.text) :
    Begins close (item.bytes, item.content) := by
  intro rest
  rw [skipBlanks_spaced opens]
  obtain ⟨b, more, hcons, -, apart⟩ := opens
  exact ⟨b, _, by rw [hcons, List.cons_append], apart⟩

theorem Spaced.coincide {item item' : Spaced α} (opens : Opens close item.text)
    (opens' : Opens close item'.text)
    (h : SameStart (item.text, item.content) (item'.text, item'.content)) :
    Coincide (item.bytes, item.content) (item'.bytes, item'.content) := by
  intro rest rest' stops stops' same
  rw [skipBlanks_spaced opens, skipBlanks_spaced opens'] at same
  obtain ⟨content, left⟩ := h _ _ (stops.1.append item.blankAfter)
    (stops'.1.append item'.blankAfter) same
  have ends := congrArg skipBlanks left
  rw [stops.skipBlanks_append item.blankAfter, stops'.skipBlanks_append item'.blankAfter] at ends
  exact ⟨content, ends⟩

theorem Assigned.begins {member : Assigned α} (opens : Opens close member.key.text) :
    Begins close (member.bytes, member.content) := by
  intro rest
  rw [Assigned.bytes, List.append_assoc]
  exact Spaced.begins opens _

theorem Assigned.coincide {member member' : Assigned α}
    (keys : Coincide (member.key.bytes, member.key.content)
      (member'.key.bytes, member'.key.content))
    (values : Coincide (member.value.bytes, member.value.content)
      (member'.value.bytes, member'.value.content)) :
    Coincide (member.bytes, member.content) (member'.bytes, member'.content) := by
  intro rest rest' stops stops' same
  simp only [Assigned.bytes, List.append_assoc, List.cons_append] at same
  obtain ⟨key, left⟩ := keys _ _ (stops_cons (by decide) (by decide) _)
    (stops_cons (by decide) (by decide) _) same
  obtain ⟨value, ends⟩ := values rest rest' stops stops'
    (congrArg skipBlanks (List.cons.inj left).2)
  exact ⟨congrArg₂ Prod.mk key value, ends⟩

end

/-! ## Values -/

theorem DenotesText.opens {quoted : Bytes} {s : String} (h : DenotesText quoted s) :
    Opens Ascii.closeBrace quoted := by
  obtain ⟨_, _, rfl⟩ := h
  exact ⟨_, _, rfl, by decide⟩

theorem DenotesText.sameStart {quoted quoted' : Bytes} {s s' : String} (h : DenotesText quoted s)
    (h' : DenotesText quoted' s') : SameStart (quoted, s) (quoted', s') := by
  intro rest rest' _ _ same
  have scanned := scanHead_quoted (spells_of_denotes h) rest
  dsimp only at same
  rw [same, scanHead_quoted (spells_of_denotes h')] at scanned
  cases scanned
  exact ⟨rfl, rfl⟩

theorem Means.opens {text : Bytes} {j : Json} (h : Means text j) :
    Opens Ascii.closeBracket text := by
  obtain ⟨b, more, hcons, -, apart⟩ := h.exists_cons
  exact ⟨b, more, hcons, apart⟩

theorem Means.sameStart {text text' : Bytes} {j j' : Json} (h : Means text j)
    (h' : Means text' j') : SameStart (text, j) (text', j') := by
  intro rest rest' ends ends' same
  dsimp only at same
  have kinds := h.kind_eq h' same
  induction h generalizing text' j' rest rest' with
  | null =>
      cases h' with
      | null => exact ⟨rfl, List.append_cancel_left same⟩
      | _ => cases kinds
  | bool b =>
      cases h' with
      | bool b' =>
          have scanned := scanHead_bool b rest
          rw [same, scanHead_bool] at scanned
          cases scanned
          exact ⟨rfl, rfl⟩
      | _ => cases kinds
  | number form read means =>
      cases h' with
      | number form' read' means' =>
          have taken := numeral_append form (read .valueEnds) ends
          rw [same, numeral_append form' (read' .valueEnds) ends'] at taken
          cases taken
          exact ⟨congrArg Json.number (means.unique means'), rfl⟩
      | _ => cases kinds
  | text h =>
      cases h' with
      | text h' =>
          obtain ⟨content, left⟩ := h.sameStart h' rest rest' ends ends' same
          exact ⟨congrArg Json.text content, left⟩
      | _ => cases kinds
  | @list blanks items blank each ih =>
      cases h' with
      | @list blanks' items' blank' each' =>
          have coincide : ∀ item ∈ items, ∀ item' ∈ items',
              Coincide (item.bytes, item.content) (item'.bytes, item'.content) := by
            intro item hitem item' hitem'
            have means := each item hitem
            have means' := each' item' hitem'
            exact Spaced.coincide means.opens means'.opens fun _ _ ends ends' same =>
              ih item hitem means' _ _ ends ends' same (means.kind_eq means' same)
          have begins : ∀ item ∈ items ++ items',
              Begins Ascii.closeBracket (item.bytes, item.content) :=
            List.forall_mem_append.mpr ⟨fun item hitem => Spaced.begins (each item hitem).opens,
              fun item hitem => Spaced.begins (each' item hitem).opens⟩
          obtain ⟨contents, left⟩ := coincide_enclosed (.inl rfl) Spaced.bytes Spaced.content
            coincide begins blank blank' (List.cons.inj same).2
          exact ⟨congrArg Json.list contents, left⟩
      | _ => cases kinds
  | @object blanks members blank keys each ih =>
      cases h' with
      | @object blanks' members' blank' keys' each' =>
          have coincide : ∀ member ∈ members, ∀ member' ∈ members',
              Coincide (member.bytes, member.content) (member'.bytes, member'.content) := by
            intro member hmember member' hmember'
            have key := keys member hmember
            have key' := keys' member' hmember'
            have means := each member hmember
            have means' := each' member' hmember'
            refine Assigned.coincide (Spaced.coincide key.opens key'.opens (key.sameStart key')) ?_
            exact Spaced.coincide means.opens means'.opens fun _ _ ends ends' same =>
              ih member hmember means' _ _ ends ends' same (means.kind_eq means' same)
          have begins : ∀ member ∈ members ++ members',
              Begins Ascii.closeBrace (member.bytes, member.content) :=
            List.forall_mem_append.mpr
              ⟨fun member hmember => Assigned.begins (keys member hmember).opens,
                fun member hmember => Assigned.begins (keys' member hmember).opens⟩
          obtain ⟨contents, left⟩ := coincide_enclosed (.inr rfl) Assigned.bytes Assigned.content
            coincide begins blank blank' (List.cons.inj same).2
          exact ⟨congrArg (Json.object ∘ Members.collect) contents, left⟩
      | _ => cases kinds

/-- No text means two values. -/
theorem Means.unique {text : Bytes} {j j' : Json} (h : Means text j) (h' : Means text j') :
    j = j' :=
  (h.sameStart h' [] [] Numeral.endsNumeral_nil Numeral.endsNumeral_nil rfl).1

end MuxConsole.Json
