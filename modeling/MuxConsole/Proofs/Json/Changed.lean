import MuxConsole.Proofs.Json.Records

/-!
# Texts that differ in a value

If the values of some members of an object are written anew, the object is read with the
same outcome as before, or with a related one, as far as this holds of these values.  So it
is with the items of a list.
-/

namespace MuxConsole.Json

/-! ## Outcomes -/

/-- The same complaint, or results that are related. -/
inductive Agree {ε α β : Type} (R : α → β → Prop) : Except ε α → Except ε β → Prop
  | ok {x : α} {y : β} (h : R x y) : Agree R (.ok x) (.ok y)
  | error (e : ε) : Agree R (.error e) (.error e)

namespace Agree

variable {ε α β γ δ : Type} {R : α → β → Prop} {S : γ → δ → Prop} {x : Except ε α}
  {y : Except ε β}

theorem refl {R : α → α → Prop} (h : ∀ a, R a a) (x : Except ε α) : Agree R x x := by
  cases x with
  | ok a => exact .ok (h a)
  | error e => exact .error e

theorem imp {S : α → β → Prop} (agree : Agree R x y) (h : ∀ a b, R a b → S a b) : Agree S x y := by
  cases agree with
  | ok related => exact .ok (h _ _ related)
  | error e => exact .error e

theorem map {f : α → γ} {g : β → δ} (agree : Agree R x y) (h : ∀ a b, R a b → S (f a) (g b)) :
    Agree S (x.map f) (y.map g) := by
  cases agree with
  | ok related => exact .ok (h _ _ related)
  | error e => exact .error e

theorem bind {f : α → Except ε γ} {g : β → Except ε δ} (agree : Agree R x y)
    (h : ∀ a b, R a b → Agree S (f a) (g b)) : Agree S (x >>= f) (y >>= g) := by
  cases agree with
  | ok related => exact h _ _ related
  | error e => exact .error e

theorem mapM {ι κ : Type} {f : ι → Except ε α} {g : κ → Except ε β} {items : List ι}
    {others : List κ}
    (each : List.Forall₂ (fun item other => Agree R (f item) (g other)) items others) :
    Agree (List.Forall₂ R) (items.mapM f) (others.mapM g) := by
  induction each with
  | nil => exact .ok .nil
  | cons first _ ih =>
      rw [List.mapM_cons, List.mapM_cons]
      refine first.bind fun a b related => ih.bind fun more rest alike => ?_
      exact .ok (.cons related alike)

end Agree

def SameName (S : Json → Json → Prop) (member other : String × Json) : Prop :=
  member.1 = other.1 ∧ S member.2 other.2

def SameTable (S : Json → Json → Prop) (table other : KeyTable Json) : Prop :=
  List.Forall₂ (SameName S) table.entries other.entries

theorem Agree.both {S : Json → Json → Prop} {x y : Except Problem Json} (agree : Agree S x y)
    (name : Except Problem String) : Agree (SameName S) (both name x) (both name y) := by
  cases name with
  | error problem => exact .error problem
  | ok name => exact agree.bind fun _ _ related => .ok ⟨rfl, related⟩

/-! ## Members -/

section

variable {S : Json → Json → Prop}

theorem Members.put_forall₂ {name : String} {value other : Json} (same : S value other)
    {members others : Members} (each : List.Forall₂ (SameName S) members others) :
    List.Forall₂ (SameName S) (members.put name value) (others.put name other) := by
  induction each with
  | nil => exact .cons ⟨rfl, same⟩ .nil
  | @cons member other _ _ first rest ih =>
      obtain ⟨key, old⟩ := member
      obtain ⟨_, new⟩ := other
      obtain ⟨rfl, related⟩ := first
      simp only [put]
      split
      · exact .cons ⟨rfl, same⟩ rest
      · exact .cons ⟨rfl, related⟩ ih

theorem Members.collect_forall₂ {members others : Members}
    (each : List.Forall₂ (SameName S) members others) :
    List.Forall₂ (SameName S) members.collect others.collect := by
  have step {done collected : Members} (alike : List.Forall₂ (SameName S) done collected) :
      List.Forall₂ (SameName S)
        (members.foldl (fun done member => put member.1 member.2 done) done)
        (others.foldl (fun done member => put member.1 member.2 done) collected) := by
    induction each generalizing done collected with
    | nil => exact alike
    | @cons member other _ _ first _ ih =>
        obtain ⟨key, value⟩ := member
        obtain ⟨_, other⟩ := other
        obtain ⟨rfl, related⟩ := first
        exact ih (put_forall₂ related alike)
  exact step .nil

end

/-! ## Records -/

namespace Record

variable {ρ ι : Type} {slots : List (Slot ρ)}

theorem fillFromMembers_congr {members others : Members}
    (each : List.Forall₂ (SameName fun j k =>
      ∀ slot ∈ slots, slot.fill.fromJson j = slot.fill.fromJson k) members others)
    (seen : List String) (record : ρ) :
    fillFromMembers slots seen record members = fillFromMembers slots seen record others := by
  induction each generalizing seen record with
  | nil => rfl
  | @cons member other _ _ first _ ih =>
      obtain ⟨key, j⟩ := member
      obtain ⟨_, k⟩ := other
      obtain ⟨rfl, same⟩ := first
      simp only [fillFromMembers, ih]
      cases found : slots.find? (·.key = key) with
      | none => rfl
      | some slot => simp only [same slot (List.mem_of_find?_eq_some found)]

theorem fillFromItems_congr {wanted : String} {items others : List Json}
    (each : List.Forall₂ (fun j k =>
      ∀ slot ∈ slots, slot.fill.fromJson j = slot.fill.fromJson k) items others)
    (length index : Nat) (record : ρ) :
    fillFromItems wanted length index record slots items =
      fillFromItems wanted length index record slots others := by
  induction slots generalizing items others index record with
  | nil => cases each <;> rfl
  | cons slot slots ih =>
      cases each with
      | nil => rfl
      | cons first rest =>
          have others := fun set : ρ → ρ => ih (rest.imp fun j k same s isSlot =>
            same s (List.mem_cons_of_mem _ isSlot)) (index + 1) (set record)
          simp only [fillFromItems, first slot List.mem_cons_self, others]

variable {R : ρ → ρ → Prop}

abbrev Keeps (R : ρ → ρ → Prop) (set other : ρ → ρ) : Prop := ∀ x y, R x y → R (set x) (other y)

theorem agree_fillWith {name : ι → Except Problem String}
    {fill : Slot ρ → ι → Except Problem (ρ → ρ)} {members others : List ι}
    (each : List.Forall₂ (fun member other => name other = name member ∧
      ∀ slot ∈ slots, name member = .ok slot.key →
        Agree (Keeps R) (fill slot member) (fill slot other)) members others)
    (seen : List String) {record other : ρ} (start : R record other) :
    Agree R (fillWith slots name fill seen record members)
      (fillWith slots name fill seen other others) := by
  induction each generalizing seen record other with
  | nil =>
      simp only [fillWith]
      cases missing? slots seen with
      | none => exact .ok start
      | some problem => exact .error problem
  | @cons member next _ _ first _ ih =>
      obtain ⟨sameName, fills⟩ := first
      rw [fillWith, fillWith, sameName]
      cases named : name member with
      | error problem => exact .error problem
      | ok key =>
          simp only [bind, Except.bind]
          cases found : slots.find? (·.key = key) with
          | none => exact ih seen start
          | some slot =>
              have isSlot := List.mem_of_find?_eq_some found
              have sameKey : slot.key = key := by simpa using List.find?_some found
              dsimp only
              split
              · exact .error _
              · refine (fills slot isSlot (sameKey ▸ named)).bind fun set reset keeps => ?_
                exact ih _ (keeps _ _ start)

theorem agree_fillInTurn {wanted : String} {tooLong : Problem}
    {fill : Slot ρ → ι → Except Problem (ρ → ρ)} {items others : List ι}
    (each : List.Forall₂ (fun item other =>
      ∀ slot ∈ slots, Agree (Keeps R) (fill slot item) (fill slot other)) items others)
    (index : Nat) {record other : ρ} (start : R record other) :
    Agree R (fillInTurn wanted tooLong fill index record slots items)
      (fillInTurn wanted tooLong fill index other slots others) := by
  induction slots generalizing items others index record other with
  | nil =>
      cases each with
      | nil => exact .ok start
      | cons => exact .error tooLong
  | cons slot slots ih =>
      cases each with
      | nil =>
          simp only [fillInTurn]
          cases tooShort? wanted index (slot :: slots) with
          | none => exact .ok start
          | some problem => exact .error problem
      | cons first rest =>
          refine (first slot List.mem_cons_self).bind fun set reset keeps => ?_
          refine ih (rest.imp fun item other fills s isSlot => ?_) _ (keeps _ _ start)
          exact fills s (List.mem_cons_of_mem _ isSlot)

end Record

/-! ## Texts -/

structure WrittenMember where
  key : Spaced Unit
  value : Spaced Unit
  quoted : IsQuoted key.text
  isJson : IsJson value.text

def WrittenMember.read (depth : Nat) (member : WrittenMember) : Except Problem (String × Json) :=
  both (spelled member.key.text) (outcome (Json.value depth) member.value.text)

structure WrittenObject where
  blanks : Bytes
  members : List WrittenMember
  blank : IsBlank blanks

def WrittenObject.text (object : WrittenObject) : Bytes :=
  Ascii.openBrace :: (object.blanks ++ enclosed Ascii.closeBrace
    (object.members.map fun member => assigned member.key member.value))

structure WrittenList where
  blanks : Bytes
  items : List (Spaced Unit)
  blank : IsBlank blanks
  each : ∀ item ∈ items, IsJson item.text

def WrittenList.text (list : WrittenList) : Bytes :=
  Ascii.openBracket :: (list.blanks ++ enclosed Ascii.closeBracket (list.items.map Spaced.bytes))

theorem WrittenObject.isJson (object : WrittenObject) : IsJson object.text := by
  have keys : ∀ member ∈ object.members.map fun member => (member.key, member.value),
      IsQuoted member.1.text := List.forall_mem_map.mpr fun member _ => member.quoted
  have values : ∀ member ∈ object.members.map fun member => (member.key, member.value),
      IsJson member.2.text := List.forall_mem_map.mpr fun member _ => member.isJson
  have isJson := IsJson.object object.blank keys values
  rw [List.map_map] at isJson
  exact isJson

/-- How a member of an object may be written anew: under such a name, and with a value in
place of the one it had. -/
inductive WrittenMember.Anew (named : String → Prop) (R : Bytes → Bytes → Prop) :
    WrittenMember → WrittenMember → Prop
  | kept (member : WrittenMember) : Anew named R member member
  | changed {member other : WrittenMember} {name : String} (key : other.key = member.key)
      (spells : spelled member.key.text = .ok name) (isNamed : named name)
      (value : R member.value.text other.value.text) : Anew named R member other

inductive InTable (R : Bytes → Bytes → Prop) : Bytes → Bytes → Prop
  | object {object other : WrittenObject}
      (each : List.Forall₂ (WrittenMember.Anew (fun _ => True) R) object.members other.members) :
      InTable R object.text other.text

/-- Records in which one field is written anew, the first one if they are lists. -/
inductive InField (name : String) (R : Bytes → Bytes → Prop) : Bytes → Bytes → Prop
  | object {object other : WrittenObject}
      (each : List.Forall₂ (WrittenMember.Anew (· = name) R) object.members other.members) :
      InField name R object.text other.text
  | list {list other : WrittenList} {first again : Spaced Unit} {rest : List (Spaced Unit)}
      (items : list.items = first :: rest) (others : other.items = again :: rest)
      (changed : R first.text again.text) : InField name R list.text other.text

/-! ## Readers -/

/-- Whatever comes after them, the two texts are read with outcomes that agree. -/
structure Alike {α : Type} (read : Reader α) (T : α → α → Prop) (text other : Bytes) : Prop where
  steady : Steady read text
  steadyOther : Steady read other
  agree : Agree T (outcome read text) (outcome read other)

namespace Alike

variable {α : Type} {read : Reader α} {T : α → α → Prop} {text other : Bytes}

theorem of_gives {x y : Except Problem α} (gives : Gives read text x)
    (givesOther : Gives read other y) (agree : Agree T x y) : Alike read T text other where
  steady := gives.steady
  steadyOther := givesOther.steady
  agree := by rwa [gives.outcome_eq, givesOther.outcome_eq]

theorem refl (h : ∀ x, T x x) (steady : Steady read text) : Alike read T text text :=
  of_gives steady steady (.refl h _)

theorem map {β : Type} {f : α → β} {S : β → β → Prop} (alike : Alike read T text other)
    (h : ∀ x y, T x y → S (f x) (f y)) :
    Alike (fun input => (read input).map fun (x, rest) => (f x, rest)) S text other :=
  of_gives (alike.steady.map f) (alike.steadyOther.map f) (alike.agree.map h)

theorem imp {S : α → α → Prop} (alike : Alike read T text other) (h : ∀ x y, T x y → S x y) :
    Alike read S text other :=
  ⟨alike.steady, alike.steadyOther, alike.agree.imp h⟩

theorem whole {β : Type} {whole other : Spaced β} (alike : Alike read T whole.text other.text) :
    Agree T (Json.whole read whole.bytes) (Json.whole read other.bytes) := by
  rw [whole_of_gives alike.steady, whole_of_gives alike.steadyOther]
  exact alike.agree

end Alike

section

variable {R : Bytes → Bytes → Prop} {depth : Nat} {text other : Bytes}

theorem WrittenObject.gives_value (object : WrittenObject) (depth : Nat) :
    Gives (value (depth + 1)) object.text
      ((object.members.mapM (WrittenMember.read depth)).map fun found =>
        .object (Members.collect found)) :=
  gives_object WrittenMember.key WrittenMember.value (fun member _ => member.quoted.spells)
    (fun member _ => member.isJson.steady depth) object.blank

theorem WrittenList.gives_value (list : WrittenList) (depth : Nat) :
    Gives (value (depth + 1)) list.text
      ((list.items.mapM fun item => outcome (value depth) item.text).map .list) :=
  gives_list (fun item h => (list.each item h).steady depth)
    (fun item h => (list.each item h).beginsItem) list.blank

theorem agree_of_anew {named : String → Prop} {S : Json → Json → Prop}
    (refl : ∀ j, S j j) (alike : ∀ text other, R text other → Alike (value depth) S text other)
    {member other : WrittenMember} (anew : WrittenMember.Anew named R member other) :
    Agree (SameName S) (member.read depth) (other.read depth) := by
  cases anew with
  | kept => exact (Agree.refl refl _).both _
  | changed key _ _ changed =>
      rw [WrittenMember.read, WrittenMember.read, key]
      exact (alike _ _ changed).agree.both _

theorem InTable.alike {S : Json → Json → Prop} (refl : ∀ j, S j j)
    (alike : ∀ text other, R text other → Alike (value depth) S text other)
    (h : InTable R text other) :
    Alike ((Schema.table .json).fromText (depth + 1)) (SameTable S) text other := by
  obtain ⟨each⟩ := h
  rename_i object other
  have gives (object : WrittenObject) := Schema.gives_table WrittenMember.key WrittenMember.value
    (fun member (_ : member ∈ object.members) => member.quoted.spells)
    (fun member _ => Schema.gives_json (member.isJson.steady depth)) object.blank
  refine .of_gives (gives object) (gives other) ?_
  have agree := Agree.mapM (each.imp fun _ _ anew => agree_of_anew refl alike anew)
  exact agree.map fun _ _ related => KeyTable.ofList_forall₂ (fun _ _ same => same.1) related

variable {ρ : Type} {title : String} {start : ρ} (slot : Slot ρ)

theorem InField.alike_value
    (alike : ∀ text other, R text other →
      Alike (value depth) (fun j k => slot.fill.fromJson j = slot.fill.fromJson k) text other)
    (h : InField slot.key R text other) :
    Alike (value (depth + 1)) (fun j k => (Schema.record title start [slot]).fromJson j =
      (Schema.record title start [slot]).fromJson k) text other := by
  have only {j k : Json} (same : slot.fill.fromJson j = slot.fill.fromJson k) :
      ∀ s ∈ [slot], s.fill.fromJson j = s.fill.fromJson k := List.forall_mem_singleton.mpr same
  have refl (j : Json) : slot.fill.fromJson j = slot.fill.fromJson j := rfl
  cases h with
  | @object object other each =>
      refine .of_gives (object.gives_value depth) (other.gives_value depth) ?_
      have agree := Agree.mapM (each.imp fun _ _ anew => agree_of_anew refl alike anew)
      refine agree.map fun members others related => ?_
      refine Record.fillFromMembers_congr ?_ [] start
      exact (Members.collect_forall₂ related).imp fun _ _ same => ⟨same.1, only same.2⟩
  | @list list other first again rest items others changed =>
      refine .of_gives (list.gives_value depth) (other.gives_value depth) ?_
      rw [items, others]
      have each : List.Forall₂ (fun item other : Spaced Unit =>
          Agree (fun j k => slot.fill.fromJson j = slot.fill.fromJson k)
            (outcome (value depth) item.text) (outcome (value depth) other.text))
          (first :: rest) (again :: rest) :=
        .cons (alike _ _ changed).agree (List.forall₂_same.mpr fun _ _ => .refl refl _)
      refine (Agree.mapM each).map fun xs ys related => ?_
      change Record.fillFromItems _ xs.length 0 start [slot] xs =
        Record.fillFromItems _ ys.length 0 start [slot] ys
      rw [related.length_eq]
      exact Record.fillFromItems_congr (related.imp fun _ _ same => only same) _ 0 start

theorem InField.alike {T : ρ → ρ → Prop}
    (same : ∀ text, IsJson text → Alike (slot.fill.fromText depth) (Record.Keeps T) text text)
    (alike : ∀ text other, R text other →
      Alike (slot.fill.fromText depth) (Record.Keeps T) text other)
    (begins : T start start) (h : InField slot.key R text other) :
    Alike ((Schema.record title start [slot]).fromText (depth + 1)) T text other := by
  have steady (text : Bytes) (isJson : IsJson text) : ∀ s ∈ [slot],
      Steady (s.fill.fromText depth) text := List.forall_mem_singleton.mpr (same text isJson).steady
  cases h with
  | @object object other each =>
      have gives (object : WrittenObject) : Gives
          ((Schema.record title start [slot]).fromText (depth + 1)) object.text _ :=
        Schema.gives_record_object WrittenMember.key WrittenMember.value
          (fun member _ => ⟨member.quoted.spells, fun s h _ => steady _ member.isJson s h,
            fun _ => member.isJson.passes⟩) object.blank
      refine .of_gives (gives object) (gives other) (Record.agree_fillWith ?_ [] begins)
      refine each.imp fun member other anew => ?_
      cases anew with
      | kept =>
          exact ⟨rfl, List.forall_mem_singleton.mpr fun _ => (same _ member.isJson).agree⟩
      | changed key _ _ changed =>
          exact ⟨by rw [key], List.forall_mem_singleton.mpr fun _ => (alike _ _ changed).agree⟩
  | @list list other first again rest items others changed =>
      have gives (list : WrittenList) : Gives
          ((Schema.record title start [slot]).fromText (depth + 1)) list.text _ :=
        Schema.gives_record_list (fun item h => steady _ (list.each item h))
          (fun item h => (list.each item h).beginsItem) list.blank
      refine .of_gives (gives list) (gives other) (Record.agree_fillInTurn ?_ 0 begins)
      rw [items, others]
      have isJson (item : Spaced Unit) (h : item ∈ rest) : IsJson item.text :=
        list.each item (items ▸ List.mem_cons_of_mem _ h)
      refine .cons (List.forall_mem_singleton.mpr (alike _ _ changed).agree) ?_
      exact List.forall₂_same.mpr fun item h =>
        List.forall_mem_singleton.mpr (same _ (isJson item h)).agree

end

end MuxConsole.Json
