import MuxConsole.Json.Read

/-!
# The shape of JSON values

Whatever has been read is nested no deeper than the reader goes, and no object in it
has two members of one name.  Assigning a member leaves the other members where they
are.
-/

namespace MuxConsole.Json

/-! ## Members -/

namespace Members

theorem names_put (name : String) (value : Json) (members : Members) :
    names (put name value members) =
      if name ∈ names members then names members else names members ++ [name] := by
  induction members with
  | nil => rfl
  | cons member rest ih =>
      obtain ⟨key, old⟩ := member
      rw [put]
      by_cases same : key = name
      · rw [if_pos same, if_pos (by simp [names, same])]
        rfl
      · rw [if_neg same]
        change key :: names (put name value rest) = _
        rw [ih]
        have mem : name ∈ names ((key, old) :: rest) ↔ name ∈ names rest := by
          simp [names, Ne.symm same]
        by_cases present : name ∈ names rest
        · rw [if_pos present, if_pos (mem.mpr present)]
          rfl
        · rw [if_neg present, if_neg (mt mem.mp present)]
          rfl

theorem nodup_put (name : String) (value : Json) {members : Members}
    (distinct : (names members).Nodup) : (names (put name value members)).Nodup := by
  rw [names_put]
  split
  · exact distinct
  · rename_i absent
    refine List.nodup_append.mpr ⟨distinct, List.pairwise_singleton _ name, ?_⟩
    rintro key present _ last rfl
    exact absent (List.mem_singleton.mp last ▸ present)

theorem mem_put {name : String} {value : Json} {members : Members} {member : String × Json}
    (h : member ∈ put name value members) : member = (name, value) ∨ member ∈ members := by
  induction members with
  | nil =>
      rw [put, List.mem_singleton] at h
      exact .inl h
  | cons first rest ih =>
      obtain ⟨key, old⟩ := first
      rw [put] at h
      split at h
      · rename_i same
        rcases List.mem_cons.mp h with rfl | h
        · exact .inl (by rw [same])
        · exact .inr (List.mem_cons_of_mem _ h)
      · rcases List.mem_cons.mp h with rfl | h
        · exact .inr List.mem_cons_self
        · exact (ih h).imp_right (List.mem_cons_of_mem _)

theorem getElem?_put {name key : String} {value old : Json} {members : Members} {i : Nat}
    (h : members[i]? = some (key, old)) (other : key ≠ name) :
    (put name value members)[i]? = some (key, old) := by
  induction members generalizing i with
  | nil => cases h
  | cons first rest ih =>
      obtain ⟨firstKey, firstOld⟩ := first
      rw [put]
      cases i with
      | zero =>
          obtain ⟨rfl, rfl⟩ := Prod.mk.inj (Option.some.inj h)
          rw [if_neg other]
          rfl
      | succ i =>
          split
          · exact h
          · exact ih h

theorem get?_put (name : String) (value : Json) (members : Members) (key : String) :
    (members.put name value).get? key = if name = key then some value else members.get? key := by
  induction members with
  | nil => rfl
  | cons first rest ih =>
      obtain ⟨other, old⟩ := first
      rw [put]
      by_cases same : other = name
      · subst same
        rw [if_pos rfl, get?, get?]
        split <;> rfl
      · rw [if_neg same, get?, get?, ih]
        by_cases here : other = key
        · rw [if_pos here, if_pos here, if_neg fun h => same (here.trans h.symm)]
        · rw [if_neg here, if_neg here]

theorem get?_of_absent {name : String} {members : Members} (absent : name ∉ names members) :
    members.get? name = none := by
  induction members with
  | nil => rfl
  | cons first rest ih =>
      obtain ⟨apart, absentRest⟩ := List.ne_and_not_mem_of_not_mem_cons absent
      rw [get?, if_neg (Ne.symm apart), ih absentRest]

theorem mem_of_get? {name : String} {members : Members} {value : Json}
    (h : members.get? name = some value) : (name, value) ∈ members := by
  induction members with
  | nil => cases h
  | cons first rest ih =>
      obtain ⟨key, old⟩ := first
      rw [get?] at h
      split at h
      · rename_i same
        cases h
        rw [same]
        exact List.mem_cons_self
      · exact List.mem_cons_of_mem _ (ih h)

theorem get?_append (members others : Members) (key : String) :
    get? key (members ++ others) = (get? key members).or (get? key others) := by
  induction members with
  | nil => rfl
  | cons first rest ih =>
      obtain ⟨name, value⟩ := first
      rw [List.cons_append, get?, get?, ih]
      split <;> rfl

theorem put_of_absent {name : String} {value : Json} {members : Members}
    (absent : name ∉ names members) : put name value members = members ++ [(name, value)] := by
  induction members with
  | nil => rfl
  | cons first rest ih =>
      obtain ⟨key, old⟩ := first
      simp only [names, List.map_cons, List.mem_cons, not_or] at absent
      rw [put, if_neg (Ne.symm absent.1), ih absent.2]
      rfl

theorem foldl_put_of_distinct (done members : Members)
    (distinct : (names (done ++ members)).Nodup) :
    members.foldl (fun done (name, value) => put name value done) done = done ++ members := by
  induction members generalizing done with
  | nil => exact (List.append_nil done).symm
  | cons first rest ih =>
      obtain ⟨name, value⟩ := first
      have absent : name ∉ names done := by
        intro present
        rw [names, List.map_append, List.nodup_append] at distinct
        exact distinct.2.2 name present name List.mem_cons_self rfl
      rw [List.foldl_cons]
      dsimp only
      rw [put_of_absent absent, ih, List.append_assoc]
      · rfl
      · rwa [List.append_assoc]

theorem collect_of_distinct {members : Members} (distinct : (names members).Nodup) :
    collect members = members := by
  rw [collect, foldl_put_of_distinct [] members distinct, List.nil_append]

theorem nodup_foldl_put (done members : Members) (distinct : (names done).Nodup) :
    (names (members.foldl (fun done (name, value) => put name value done) done)).Nodup := by
  induction members generalizing done with
  | nil => exact distinct
  | cons first rest ih => exact ih _ (nodup_put first.1 first.2 distinct)

theorem nodup_collect (members : Members) : (names (collect members)).Nodup :=
  nodup_foldl_put [] members List.Pairwise.nil

theorem mem_foldl_put {done members : Members} {member : String × Json}
    (h : member ∈ members.foldl (fun done (name, value) => put name value done) done) :
    member ∈ members ∨ member ∈ done := by
  induction members generalizing done with
  | nil => exact .inr h
  | cons first rest ih =>
      rcases ih h with later | h
      · exact .inl (List.mem_cons_of_mem _ later)
      · rcases mem_put h with rfl | h
        · exact .inl List.mem_cons_self
        · exact .inr h

theorem mem_collect {members : Members} {member : String × Json} (h : member ∈ collect members) :
    member ∈ members :=
  (mem_foldl_put h).resolve_right List.not_mem_nil

/-! ### Some of the members -/

section

variable (keeps : String → Bool)

theorem filter_put (name : String) (value : Json) (members : Members) :
    (put name value members).filter (fun member => keeps member.1) =
      if keeps name then put name value (members.filter fun member => keeps member.1)
      else members.filter fun member => keeps member.1 := by
  induction members with
  | nil => cases kept : keeps name <;> simp [put, kept]
  | cons member rest ih =>
      obtain ⟨key, old⟩ := member
      rw [put]
      by_cases same : key = name
      · subst same
        cases kept : keeps key <;> simp [put, kept]
      · rw [if_neg same, List.filter_cons, ih]
        cases kept : keeps key <;> cases named : keeps name <;> simp [put, kept, same]

theorem filter_collect (members : Members) :
    (collect members).filter (fun member => keeps member.1) =
      collect (members.filter fun member => keeps member.1) := by
  have step (done : Members) :
      (members.foldl (fun done (name, value) => put name value done) done).filter
          (fun member => keeps member.1) =
        (members.filter fun member => keeps member.1).foldl
          (fun done (name, value) => put name value done)
          (done.filter fun member => keeps member.1) := by
    induction members generalizing done with
    | nil => rfl
    | cons member rest ih =>
        obtain ⟨name, value⟩ := member
        rw [List.foldl_cons, ih, filter_put]
        cases kept : keeps name <;> simp [kept]
  exact step []

end

end Members

/-! ## Depth -/

/-- A value nested at most so deep, with no name twice in an object. -/
inductive Nested : Nat → Json → Prop
  | null {depth : Nat} : Nested depth .null
  | bool {depth : Nat} (b : Bool) : Nested depth (.bool b)
  | number {depth : Nat} (n : Number) : Nested depth (.number n)
  | text {depth : Nat} (s : String) : Nested depth (.text s)
  | list {depth : Nat} {items : List Json} (each : ∀ item ∈ items, Nested depth item) :
      Nested (depth + 1) (.list items)
  | object {depth : Nat} {members : Members} (distinct : members.names.Nodup)
      (each : ∀ member ∈ members, Nested depth member.2) : Nested (depth + 1) (.object members)

inductive Integral : Json → Prop
  | null : Integral .null
  | bool (b : Bool) : Integral (.bool b)
  | number {n : Int} (inRange : IsWord n) : Integral (.number (.whole n inRange))
  | text (s : String) : Integral (.text s)
  | list {items : List Json} (each : ∀ item ∈ items, Integral item) : Integral (.list items)
  | object {members : Members} (each : ∀ member ∈ members, Integral member.2) :
      Integral (.object members)

theorem Nested.put {depth : Nat} {members : Members} {name : String} {value : Json}
    (h : Nested (depth + 1) (.object members)) (hvalue : Nested depth value) :
    Nested (depth + 1) (.object (members.put name value)) := by
  cases h with
  | object distinct each =>
      refine .object (Members.nodup_put name value distinct) fun member hmember => ?_
      rcases Members.mem_put hmember with rfl | hmember
      · exact hvalue
      · exact each member hmember

theorem Integral.put {members : Members} {name : String} {value : Json}
    (h : Integral (.object members)) (hvalue : Integral value) :
    Integral (.object (members.put name value)) := by
  cases h with
  | object each =>
      refine .object fun member hmember => ?_
      rcases Members.mem_put hmember with rfl | hmember
      · exact hvalue
      · exact each member hmember

/-! ## What is read -/

theorem exists_of_bind_ok {ε α β : Type} {first : Except ε α} {next : α → Except ε β} {b : β}
    (h : first >>= next = .ok b) : ∃ a, first = .ok a ∧ next a = .ok b := by
  cases first with
  | ok a => exact ⟨a, rfl, h⟩
  | error problem => cases h

theorem exists_of_map_ok {ε α β : Type} {f : α → β} {first : Except ε α} {b : β}
    (h : first.map f = .ok b) : ∃ a, first = .ok a ∧ f a = b := by
  cases first with
  | ok a => exact ⟨a, rfl, Except.ok.inj h⟩
  | error problem => cases h

section

variable {α : Type} {read : Reader α} {P : α → Prop}

theorem itemsFrom_forall (h : ∀ input x rest, read input = .ok (x, rest) → P x)
    {first : Bool} {clock input rest : Bytes} {xs : List α}
    (hread : itemsFrom read first clock input = .ok (xs, rest)) : ∀ x ∈ xs, P x := by
  induction clock generalizing first input xs rest with
  | nil => cases hread
  | cons _ clock ih =>
      obtain ⟨place, _, hplace⟩ := exists_of_bind_ok hread
      cases place with
      | done left =>
          cases hplace
          exact List.forall_mem_nil P
      | item input =>
          obtain ⟨⟨x, _⟩, hitem, hrest⟩ := exists_of_bind_ok hplace
          obtain ⟨⟨more, _⟩, hmore, hlast⟩ := exists_of_bind_ok hrest
          cases hlast
          exact List.forall_mem_cons.mpr ⟨h _ x _ hitem, ih hmore⟩

theorem membersFrom_forall (h : ∀ input x rest, read input = .ok (x, rest) → P x)
    {first : Bool} {clock input rest : Bytes} {xs : List (String × α)}
    (hread : membersFrom read first clock input = .ok (xs, rest)) :
    ∀ member ∈ xs, P member.2 := by
  induction clock generalizing first input xs rest with
  | nil => cases hread
  | cons _ clock ih =>
      obtain ⟨place, _, hplace⟩ := exists_of_bind_ok hread
      cases place with
      | done left =>
          cases hplace
          exact List.forall_mem_nil _
      | member key input =>
          obtain ⟨_, _, hcolon⟩ := exists_of_bind_ok hplace
          obtain ⟨⟨x, _⟩, hvalue, hrest⟩ := exists_of_bind_ok hcolon
          obtain ⟨⟨more, _⟩, hmore, hlast⟩ := exists_of_bind_ok hrest
          cases hlast
          exact List.forall_mem_cons.mpr ⟨h _ x _ hvalue, ih hmore⟩

end

def Reads {α : Type} (read : Reader α) (x : α) : Prop := ∃ input rest, read input = .ok (x, rest)

/-- What a value is made of, by the reader of its items and members if there is one. -/
inductive Composed : Option (Reader Json) → Json → Prop
  | null {inner : Option (Reader Json)} : Composed inner .null
  | bool {inner : Option (Reader Json)} (b : Bool) : Composed inner (.bool b)
  | number {inner : Option (Reader Json)} {n : Number} {input rest : Bytes}
      (scanned : scanHead input = .ok (.number n, rest)) : Composed inner (.number n)
  | text {inner : Option (Reader Json)} (s : String) : Composed inner (.text s)
  | list {read : Reader Json} {items : List Json} (each : ∀ item ∈ items, Reads read item) :
      Composed (some read) (.list items)
  | object {read : Reader Json} {members : Members} (distinct : members.names.Nodup)
      (each : ∀ member ∈ members, Reads read member.2) : Composed (some read) (.object members)

theorem composed_of_valueWith {inner : Option (Reader Json)} {input rest : Bytes} {j : Json}
    (h : valueWith inner input = .ok (j, rest)) : Composed inner j := by
  obtain ⟨⟨head, left⟩, hhead, hbody⟩ := exists_of_bind_ok h
  have reads (read : Reader Json) : ∀ input x rest, read input = .ok (x, rest) → Reads read x :=
    fun input _ rest hread => ⟨input, rest, hread⟩
  cases head with
  | null =>
      cases hbody
      exact .null
  | bool b =>
      cases hbody
      exact .bool b
  | number n =>
      cases hbody
      exact .number hhead
  | text s =>
      cases hbody
      exact .text s
  | list =>
      cases inner with
      | none => cases hbody
      | some read =>
          obtain ⟨⟨xs, _⟩, hitems, hlast⟩ := exists_of_bind_ok hbody
          cases hlast
          exact .list (itemsFrom_forall (reads read) hitems)
  | object =>
      cases inner with
      | none => cases hbody
      | some read =>
          obtain ⟨⟨xs, _⟩, hmembers, hlast⟩ := exists_of_bind_ok hbody
          cases hlast
          have each := membersFrom_forall (reads read) hmembers
          exact .object (Members.nodup_collect xs) fun member hmember =>
            each member (Members.mem_collect hmember)

theorem nested_of_value {depth : Nat} {input rest : Bytes} {j : Json}
    (h : value depth input = .ok (j, rest)) : Nested depth j := by
  induction depth generalizing input rest j with
  | zero =>
      cases composed_of_valueWith h with
      | null => exact .null
      | bool b => exact .bool b
      | number => exact .number _
      | text s => exact .text s
  | succ depth ih =>
      have below {j : Json} (reads : Reads (value depth) j) : Nested depth j := by
        obtain ⟨_, _, hread⟩ := reads
        exact ih hread
      cases composed_of_valueWith h with
      | null => exact .null
      | bool b => exact .bool b
      | number => exact .number _
      | text s => exact .text s
      | list each => exact .list fun item hitem => below (each item hitem)
      | object distinct each =>
          exact .object distinct fun member hmember => below (each member hmember)

theorem reads_of_parse {input : Bytes} {j : Json} (h : parse input = .ok j) :
    Reads (value greatestDepth) j := by
  obtain ⟨⟨found, left⟩, hvalue, hlast⟩ := exists_of_bind_ok h
  dsimp only at hlast
  split at hlast
  · cases hlast
    exact ⟨input, left, hvalue⟩
  · cases hlast

theorem nested_of_parse {input : Bytes} {j : Json} (h : parse input = .ok j) :
    Nested greatestDepth j := by
  obtain ⟨_, _, hvalue⟩ := reads_of_parse h
  exact nested_of_value hvalue

end MuxConsole.Json
