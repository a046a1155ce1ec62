import Mathlib.Data.List.Find
import MuxConsole.Json.Schema
import MuxConsole.Proofs.Json.Shape
import MuxConsole.Proofs.Named

/-!
# What a record shows

A record shows a value under each name that it is written with.  If a slot puts what it
reads where the record shows its key, and nowhere else, then a record that has been read
shows just what the members of the object were.  A member that says what the record shows
from the start may as well be left out.
-/

namespace MuxConsole.Json

def shown : Json → Option Json
  | .null => none
  | j => some j

theorem shown_eq_some {j : Json} (h : j ≠ .null) : shown j = some j := by
  cases j <;> first | rfl | exact absurd rfl h

/-! ## Fields -/

/-- What is read from a value is shown as that value, and read from what it is shown as. -/
structure Schema.Mirrors {α : Type} (schema : Schema α) (view : α → Option Json) : Prop where
  shows {j : Json} {x : α} (h : schema.fromJson j = .ok x) : view x = shown j
  reads {x : α} {j : Json} (h : view x = some j) : schema.fromJson j = .ok x

theorem Schema.Mirrors.injective {α : Type} {schema : Schema α} {shows : α → Json}
    (mirrors : schema.Mirrors fun x => some (shows x)) : Function.Injective shows := by
  intro x y same
  have first : schema.fromJson (shows y) = .ok x := mirrors.reads (by rw [same])
  have second : schema.fromJson (shows y) = .ok y := mirrors.reads rfl
  exact Except.ok.inj (first.symm.trans second)

section

variable {α : Type}

theorem eq_ofWord [Word α] {n : Int} {x : α} (h : Word.ofInt? n = some x) (inRange : IsWord n) :
    Json.number (.whole n inRange) = ofWord x := by
  obtain rfl := Word.toInt_of_ofInt? n x h
  rfl

theorem shown_ofWord [Word α] (x : α) : shown (ofWord x) = some (ofWord x) := rfl

theorem Schema.mirrors_word [Word α] : (word : Schema α).Mirrors fun x => some (ofWord x) where
  shows {j x} h := by
    cases j with
    | number n =>
        cases n with
        | whole n inRange =>
            simp only [word, ofHead, head, readWord] at h
            split at h
            · rename_i found
              cases h
              rw [eq_ofWord found, shown_ofWord]
            · cases h
        | double d => cases h
    | _ => cases h
  reads {x j} h := by
    cases h
    simp only [word, ofHead, ofWord, head, readWord, Word.ofInt?_toInt]

theorem Schema.mirrors_string : string.Mirrors fun s => some (.text s) where
  shows {j s} h := by
    cases j with
    | text => cases h; rfl
    | _ => cases h
  reads h := by cases h; rfl

theorem Schema.mirrors_number : number.Mirrors fun n => some (.number n) where
  shows {j n} h := by
    cases j with
    | number => cases h; rfl
    | _ => cases h
  reads h := by cases h; rfl

theorem Schema.mirrors_optional {schema : Schema α} {shows : α → Json}
    (mirrors : schema.Mirrors fun x => some (shows x)) :
    schema.optional.Mirrors (Option.map shows) where
  shows {j x} h := by
    cases j with
    | null =>
        cases h
        rfl
    | _ =>
        obtain ⟨y, read, rfl⟩ := exists_of_map_ok h
        exact mirrors.shows read
  reads {x j} h := by
    obtain ⟨y, rfl, rfl⟩ := Option.map_eq_some_iff.mp h
    have read : schema.fromJson (shows y) = .ok y := mirrors.reads rfl
    have same := mirrors.shows read
    generalize shows y = j at read same
    cases j with
    | null => cases same
    | _ =>
        change (schema.fromJson _).map some = _
        rw [read]
        rfl

end

namespace Record

variable {ρ σ : Type}

/-- What a slot does to a record: `view` is what the record shows under each name, and
`kept` is what it holds besides. -/
structure Fits (view : ρ → String → Option Json) (kept : ρ → σ) (slot : Slot ρ) : Prop where
  own {j : Json} {set : ρ → ρ} (h : slot.fill.fromJson j = .ok set) (record : ρ) :
    view (set record) slot.key = shown j
  other {j : Json} {set : ρ → ρ} (h : slot.fill.fromJson j = .ok set) (record : ρ) {key : String}
    (apart : key ≠ slot.key) : view (set record) key = view record key
  keeps {j : Json} {set : ρ → ρ} (h : slot.fill.fromJson j = .ok set) (record : ρ) :
    kept (set record) = kept record
  reads {record : ρ} {j : Json} (h : view record slot.key = some j) :
    shown j = some j ∧ ∃ set, slot.fill.fromJson j = .ok set

section

variable {fields : List (String × (ρ → Option Json))}

def written (fields : List (String × (ρ → Option Json))) (record : ρ) : Members :=
  fields.flatMap fun (name, shows) => (shows record).toList.map (name, ·)

def view (fields : List (String × (ρ → Option Json))) (record : ρ) (name : String) :
    Option Json :=
  (fields.find? (·.1 = name)).bind (·.2 record)

theorem fits_of_mirrors {α : Type} {kept : ρ → σ} {key : String} {schema : Schema α}
    {shows : α → Option Json} (mirrors : schema.Mirrors shows) {field : ρ → Option Json}
    (found : fields.find? (·.1 = key) = some (key, field)) (content : ρ → α)
    (same : ∀ record, field record = shows (content record)) {set : α → ρ → ρ}
    (own : ∀ x record, content (set x record) = x)
    (other : ∀ field ∈ fields, field.1 ≠ key → ∀ x record, field.2 (set x record) = field.2 record)
    (keeps : ∀ x record, kept (set x record) = kept record) (needed : Bool) :
    Fits (view fields) kept ⟨key, needed, schema.map set⟩ where
  own h record := by
    obtain ⟨x, read, rfl⟩ := exists_of_map_ok h
    simp only [view, found, Option.bind_some, same, own, mirrors.shows read]
  other {j _} h record name apart := by
    obtain ⟨x, -, rfl⟩ := exists_of_map_ok h
    simp only [view]
    cases at' : fields.find? (·.1 = name) with
    | none => rfl
    | some field =>
        have named : field.1 = name := by simpa using List.find?_some at'
        exact other field (List.mem_of_find?_eq_some at') (named ▸ apart) x record
  keeps h record := by
    obtain ⟨x, -, rfl⟩ := exists_of_map_ok h
    exact keeps x record
  reads {record j} h := by
    simp only [view, found, Option.bind_some, same] at h
    have read := mirrors.reads h
    exact ⟨(mirrors.shows read).symm.trans h, set (content record),
      by simp only [Schema.map, read, Except.map]⟩

theorem view_congr {left right : ρ} (same : ∀ field ∈ fields, field.2 left = field.2 right) :
    view fields left = view fields right := by
  funext name
  simp only [view]
  cases at' : fields.find? (·.1 = name) with
  | none => rfl
  | some field => exact same field (List.mem_of_find?_eq_some at')

theorem view_of_field (distinct : (fields.map (·.1)).Nodup) {field : String × (ρ → Option Json)}
    (h : field ∈ fields) (record : ρ) : view fields record field.1 = field.2 record := by
  rw [view, find?_of_nodup distinct h, Option.bind_some]

theorem fields_of_view (distinct : (fields.map (·.1)).Nodup) {left right : ρ}
    (same : view fields left = view fields right) :
    ∀ field ∈ fields, field.2 left = field.2 right := by
  intro field isField
  rw [← view_of_field distinct isField left, ← view_of_field distinct isField right, same]

theorem mem_written {record : ρ} {member : String × Json} :
    member ∈ written fields record ↔
      ∃ field ∈ fields, field.1 = member.1 ∧ field.2 record = some member.2 := by
  obtain ⟨name, j⟩ := member
  simp [written, and_comm, eq_comm]

theorem forall_written {P : Json → Prop} {record : ρ}
    (each : ∀ field ∈ fields, ∀ j, field.2 record = some j → P j) :
    ∀ member ∈ written fields record, P member.2 := by
  intro member h
  obtain ⟨field, isField, -, shows⟩ := mem_written.mp h
  exact each field isField member.2 shows

theorem names_written (record : ρ) : (written fields record).names.Sublist (fields.map (·.1)) := by
  induction fields with
  | nil => exact .slnil
  | cons field fields ih =>
      obtain ⟨name, shows⟩ := field
      simp only [written, List.flatMap_cons, Members.names, List.map_append, List.map_cons]
      cases shows record with
      | none => exact ih.cons name
      | some j => exact ih.cons_cons name

theorem get?_written (distinct : (fields.map (·.1)).Nodup) (record : ρ) (name : String) :
    Members.get? name (written fields record) = view fields record name := by
  induction fields with
  | nil => rfl
  | cons field fields ih =>
      obtain ⟨key, shows⟩ := field
      obtain ⟨absent, distinctRest⟩ := List.nodup_cons.mp distinct
      have split : written ((key, shows) :: fields) record =
          (shows record).toList.map (key, ·) ++ written fields record := List.flatMap_cons
      rw [split, Members.get?_append]
      by_cases here : key = name
      · subst here
        have nowhere : Members.get? key (written fields record) = none :=
          Members.get?_of_absent fun h => absent ((names_written record).subset h)
        rw [nowhere, Option.or_none]
        cases shown : shows record <;> simp [view, Members.get?, shown]
      · have apart : Members.get? name ((shows record).toList.map (key, ·)) = none := by
          cases shows record <;> simp [Members.get?, here]
        rw [apart, Option.none_or, ih distinctRest]
        simp [view, here]

end

theorem find?_key {slots : List (Slot ρ)} {key : String} {slot : Slot ρ}
    (h : slots.find? (·.key = key) = some slot) : slot ∈ slots ∧ slot.key = key :=
  ⟨List.mem_of_find?_eq_some h, by simpa using List.find?_some h⟩

/-! ## One member -/

section

variable {slots : List (Slot ρ)} {seen : List String} {record result : ρ} {key : String} {j : Json}
  {members : Members}

theorem fillFromMembers_pass (h : slots.find? (·.key = key) = none) :
    fillFromMembers slots seen record ((key, j) :: members) =
      fillFromMembers slots seen record members := by
  rw [fillFromMembers, h]

theorem fillFromMembers_fill {slot : Slot ρ} {set : ρ → ρ}
    (h : slots.find? (·.key = key) = some slot) (fresh : key ∉ seen)
    (read : slot.fill.fromJson j = .ok set) :
    fillFromMembers slots seen record ((key, j) :: members) =
      fillFromMembers slots (key :: seen) (set record) members := by
  have unseen : ¬ seen.contains key = true := by simpa using fresh
  simp only [fillFromMembers, h, if_neg unseen, read]
  rfl

theorem fillFromMembers_refused {slot : Slot ρ} {problem : Problem}
    (h : slots.find? (·.key = key) = some slot) (fresh : key ∉ seen)
    (read : slot.fill.fromJson j = .error problem) :
    fillFromMembers slots seen record ((key, j) :: members) = .error problem := by
  have unseen : ¬ seen.contains key = true := by simpa using fresh
  simp only [fillFromMembers, h, if_neg unseen, read]
  rfl

theorem fillFromMembers_cons
    (h : fillFromMembers slots seen record ((key, j) :: members) = .ok result) :
    (slots.find? (·.key = key) = none ∧ fillFromMembers slots seen record members = .ok result) ∨
      ∃ slot set, slots.find? (·.key = key) = some slot ∧ key ∉ seen ∧
        slot.fill.fromJson j = .ok set ∧
        fillFromMembers slots (key :: seen) (set record) members = .ok result := by
  cases found : slots.find? (·.key = key) with
  | none =>
      rw [fillFromMembers_pass found] at h
      exact .inl ⟨rfl, h⟩
  | some slot =>
      simp only [fillFromMembers, found] at h
      split at h
      · cases h
      · rename_i unseen
        obtain ⟨set, read, filled⟩ := exists_of_bind_ok h
        exact .inr ⟨slot, set, rfl, by simpa using unseen, read, filled⟩

end

/-! ## All members -/

section

variable {P : ρ → Prop} {slots : List (Slot ρ)} (step : ∀ slot ∈ slots, ∀ j set record,
  slot.fill.fromJson j = .ok set → P record → P (set record))

include step

theorem fillFromMembers_invariant {seen : List String} {record result : ρ} {members : Members}
    (filled : fillFromMembers slots seen record members = .ok result) (h : P record) :
    P result := by
  induction members generalizing seen record with
  | nil =>
      rw [fillFromMembers] at filled
      split at filled
      · cases filled
      · cases filled
        exact h
  | cons member members ih =>
      rcases fillFromMembers_cons filled with ⟨-, rest⟩ | ⟨slot, set, found, -, read, rest⟩
      · exact ih rest h
      · exact ih rest (step slot (find?_key found).1 _ set record read h)

theorem fillFromItems_invariant {wanted : String} {length index : Nat} {record result : ρ}
    {items : List Json}
    (filled : fillFromItems wanted length index record slots items = .ok result)
    (h : P record) : P result := by
  induction slots generalizing items index record with
  | nil =>
      cases items with
      | nil =>
          cases filled
          exact h
      | cons => cases filled
  | cons slot slots ih =>
      obtain ⟨stepFirst, stepRest⟩ := List.forall_mem_cons.mp step
      cases items with
      | nil =>
          rw [fillFromItems] at filled
          split at filled
          · cases filled
          · cases filled
            exact h
      | cons j items =>
          obtain ⟨set, read, rest⟩ := exists_of_bind_ok filled
          exact ih stepRest rest (stepFirst j set record read h)

/-- What holds at the start and is kept by every slot holds of whatever is read. -/
theorem invariant {title : String} {start result : ρ} {j : Json} (h : P start)
    (read : (Schema.record title start slots).fromJson j = .ok result) : P result := by
  cases j with
  | object members => exact fillFromMembers_invariant step read h
  | list items => exact fillFromItems_invariant step read h
  | _ => cases read

end

section

variable {slots : List (Slot ρ)} {seen : List String} {record result : ρ} {members : Members}
  (filled : fillFromMembers slots seen record members = .ok result)

include filled

theorem absent_of_seen {key : String} (isSeen : key ∈ seen)
    (asked : slots.find? (·.key = key) ≠ none) : key ∉ members.names := by
  induction members generalizing seen record with
  | nil => exact List.not_mem_nil
  | cons member members ih =>
      rcases fillFromMembers_cons filled with ⟨unasked, rest⟩ | ⟨slot, set, found, unseen, -, rest⟩
      · refine List.not_mem_cons_of_ne_of_not_mem ?_ (ih rest isSeen)
        rintro rfl
        exact asked unasked
      · refine List.not_mem_cons_of_ne_of_not_mem ?_ (ih rest (List.mem_cons_of_mem _ isSeen))
        rintro rfl
        exact unseen isSeen

theorem fill_of_mem {member : String × Json} (h : member ∈ members) {slot : Slot ρ}
    (found : slots.find? (·.key = member.1) = some slot) :
    ∃ (set : ρ → ρ) (before : ρ) (visited : List String) (rest : Members),
      slot.fill.fromJson member.2 = .ok set ∧
        fillFromMembers slots visited (set before) rest = .ok result ∧ member.1 ∉ rest.names := by
  induction members generalizing seen record with
  | nil => cases h
  | cons first members ih =>
      rcases fillFromMembers_cons filled with
        ⟨unasked, rest⟩ | ⟨asked, set, foundFirst, -, read, rest⟩
      · rcases List.mem_cons.mp h with rfl | later
        · rw [found] at unasked
          cases unasked
        · exact ih rest later
      · rcases List.mem_cons.mp h with rfl | later
        · rw [found] at foundFirst
          cases foundFirst
          exact ⟨set, record, _, members, read, rest,
            absent_of_seen rest List.mem_cons_self (found ▸ nofun)⟩
        · exact ih rest later

theorem fill_unasked (unasked : ∀ name ∈ members.names, slots.find? (·.key = name) = none) :
    result = record := by
  induction members generalizing seen record with
  | nil =>
      rw [fillFromMembers] at filled
      split at filled
      · cases filled
      · cases filled
        rfl
  | cons member members ih =>
      obtain ⟨unaskedFirst, unaskedRest⟩ := List.forall_mem_cons.mp unasked
      rw [fillFromMembers_pass unaskedFirst] at filled
      exact ih filled unaskedRest

end

section

variable {view : ρ → String → Option Json} {kept : ρ → σ} {slots : List (Slot ρ)}
  (fits : ∀ slot ∈ slots, Fits view kept slot) {seen : List String} {record result : ρ}
  {members : Members} (filled : fillFromMembers slots seen record members = .ok result)

include fits filled

theorem kept_of_fill : kept result = kept record :=
  fillFromMembers_invariant (P := fun other => kept other = kept record)
    (fun slot isSlot _ _ other read same => ((fits slot isSlot).keeps read other).trans same)
    filled rfl

theorem view_of_absent {key : String} (absent : key ∉ members.names) :
    view result key = view record key := by
  induction members generalizing seen record with
  | nil =>
      rw [fillFromMembers] at filled
      split at filled
      · cases filled
      · cases filled
        rfl
  | cons member members ih =>
      obtain ⟨apart, absentRest⟩ := List.ne_and_not_mem_of_not_mem_cons absent
      rcases fillFromMembers_cons filled with ⟨-, rest⟩ | ⟨slot, set, found, -, read, rest⟩
      · exact ih rest absentRest
      · obtain ⟨isSlot, sameKey⟩ := find?_key found
        rw [ih rest absentRest, (fits slot isSlot).other read record (sameKey ▸ apart)]

theorem view_of_mem {member : String × Json} (h : member ∈ members)
    (asked : slots.find? (·.key = member.1) ≠ none) : view result member.1 = shown member.2 := by
  obtain ⟨slot, found⟩ := Option.ne_none_iff_exists'.mp asked
  obtain ⟨set, before, visited, rest, read, filledRest, absent⟩ := fill_of_mem filled h found
  obtain ⟨isSlot, sameKey⟩ := find?_key found
  have own := (fits slot isSlot).own read before
  rw [sameKey] at own
  rw [← own]
  exact view_of_absent fits filledRest absent

end

theorem exists_fillFromMembers {slots : List (Slot ρ)} {members : Members}
    (reads : ∀ member ∈ members, ∃ slot set, slots.find? (·.key = member.1) = some slot ∧
      slot.fill.fromJson member.2 = .ok set)
    (distinct : members.names.Nodup) {seen : List String}
    (fresh : ∀ key ∈ seen, key ∉ members.names)
    (complete : ∀ slot ∈ slots, slot.needed = true → slot.key ∈ seen ∨ slot.key ∈ members.names)
    (record : ρ) : ∃ result, fillFromMembers slots seen record members = .ok result := by
  induction members generalizing seen record with
  | nil =>
      have nothing : missing? slots seen = none := by
        rw [missing?, Option.map_eq_none_iff, List.find?_eq_none]
        intro slot isSlot
        have present := complete slot isSlot
        simp only [Members.names, List.map_nil, List.not_mem_nil, or_false] at present
        simpa using present
      exact ⟨record, by rw [fillFromMembers, nothing]⟩
  | cons member members ih =>
      obtain ⟨⟨slot, set, found, read⟩, readsRest⟩ := List.forall_mem_cons.mp reads
      obtain ⟨absent, distinctRest⟩ := List.nodup_cons.mp distinct
      have unseen : member.1 ∉ seen := fun h => fresh _ h List.mem_cons_self
      have freshRest : ∀ key ∈ member.1 :: seen, key ∉ Members.names members := by
        refine List.forall_mem_cons.mpr ⟨absent, fun key h => ?_⟩
        exact fun later => fresh key h (List.mem_cons_of_mem _ later)
      have completeRest : ∀ slot ∈ slots, slot.needed = true →
          slot.key ∈ member.1 :: seen ∨ slot.key ∈ Members.names members := by
        intro slot isSlot needed
        have present := complete slot isSlot needed
        rw [Members.names, List.map_cons, List.mem_cons] at present
        rw [List.mem_cons, Members.names]
        grind
      obtain ⟨result, filled⟩ := ih readsRest distinctRest freshRest completeRest (set record)
      exact ⟨result, by rw [fillFromMembers_fill found unseen read, filled]⟩

/-! ## Written and read again -/

section

variable {kept : ρ → σ} {fields : List (String × (ρ → Option Json))} {slots : List (Slot ρ)}
  {record start : ρ}

theorem exists_find? {name : String} (h : name ∈ slots.map (·.key)) :
    ∃ slot, slots.find? (·.key = name) = some slot := by
  obtain ⟨slot, isSlot, sameKey⟩ := List.mem_map.mp h
  rw [← Option.isSome_iff_exists, List.find?_isSome]
  exact ⟨slot, isSlot, by simpa using sameKey⟩

variable (keys : fields.map (·.1) = slots.map (·.key)) (distinct : (fields.map (·.1)).Nodup)

include keys distinct

theorem asked_of_written {member : String × Json} (h : member ∈ written fields record) :
    view fields record member.1 = some member.2 ∧
      ∃ slot, slots.find? (·.key = member.1) = some slot := by
  obtain ⟨field, isField, named, shows⟩ := mem_written.mp h
  refine ⟨by rw [← named, view_of_field distinct isField, shows], exists_find? ?_⟩
  exact keys ▸ named ▸ List.mem_map_of_mem isField

variable (fits : ∀ slot ∈ slots, Fits (view fields) kept slot)

include fits

theorem reads_of_written {member : String × Json} (h : member ∈ written fields record) :
    ∃ slot set, slots.find? (·.key = member.1) = some slot ∧
      slot.fill.fromJson member.2 = .ok set := by
  obtain ⟨shows, slot, found⟩ := asked_of_written keys distinct h
  obtain ⟨isSlot, sameKey⟩ := find?_key found
  obtain ⟨-, set, read⟩ := (fits slot isSlot).reads (sameKey ▸ shows)
  exact ⟨slot, set, found, read⟩

theorem view_of_written {result : ρ} {seen : List String}
    (filled : fillFromMembers slots seen start (written fields record) = .ok result)
    (bare : ∀ field ∈ fields, field.2 record = none → field.2 start = none) :
    view fields result = view fields record := by
  funext name
  cases shows : view fields record name with
  | some j =>
      have isMember : (name, j) ∈ written fields record :=
        Members.mem_of_get? ((get?_written distinct record name).trans shows)
      obtain ⟨-, slot, found⟩ := asked_of_written keys distinct isMember
      obtain ⟨isSlot, sameKey⟩ := find?_key found
      have shownSame := ((fits slot isSlot).reads (by rw [sameKey, shows])).1
      rw [← shownSame]
      exact view_of_mem fits filled isMember (found ▸ nofun)
  | none =>
      have absent : name ∉ (written fields record).names := by
        intro isName
        obtain ⟨member, isMember, rfl⟩ := List.mem_map.mp isName
        have showsMember := (asked_of_written keys distinct isMember).1
        rw [shows] at showsMember
        cases showsMember
      rw [view_of_absent fits filled absent]
      simp only [view] at shows ⊢
      cases at' : fields.find? (·.1 = name) with
      | none => rfl
      | some field =>
          rw [at'] at shows
          exact bare field (List.mem_of_find?_eq_some at') shows

theorem exists_fill_written
    (complete : ∀ slot ∈ slots, slot.needed = true → view fields record slot.key ≠ none)
    (bare : ∀ field ∈ fields, field.2 record = none → field.2 start = none) :
    ∃ result, fillFromMembers slots [] start (written fields record) = .ok result ∧
      view fields result = view fields record ∧ kept result = kept start := by
  have present : ∀ slot ∈ slots, slot.needed = true →
      slot.key ∈ ([] : List String) ∨ slot.key ∈ (written fields record).names := by
    intro slot isSlot needed
    obtain ⟨j, shows⟩ := Option.ne_none_iff_exists'.mp (complete slot isSlot needed)
    rw [← get?_written distinct] at shows
    exact .inr (List.mem_map_of_mem (Members.mem_of_get? shows))
  obtain ⟨result, filled⟩ := exists_fillFromMembers
    (fun _ => reads_of_written keys distinct fits) ((names_written record).nodup distinct)
    (List.forall_mem_nil _) present start
  exact ⟨result, filled, view_of_written keys distinct fits filled bare, kept_of_fill fits filled⟩

end

/-! ## Members that may be left out -/

/-- A member that changes nothing: no slot that is needed asks for it, and it says what
the record shows anyway. -/
structure Idle (view : ρ → String → Option Json) (slots : List (Slot ρ)) (start : ρ)
    (member : String × Json) : Prop where
  slot : ∃ slot set, slots.find? (·.key = member.1) = some slot ∧
    slot.fill.fromJson member.2 = .ok set
  same : shown member.2 = view start member.1

section

variable {view : ρ → String → Option Json} {kept : ρ → σ} {slots : List (Slot ρ)} {start : ρ}
  {extra : String → Bool}

theorem missing?_congr {seen others : List String}
    (spare : ∀ slot ∈ slots, slot.needed = true → extra slot.key = false)
    (same : ∀ key, extra key = false → (key ∈ seen ↔ key ∈ others)) :
    missing? slots seen = missing? slots others := by
  have alike : ∀ slot ∈ slots, (slot.needed && !seen.contains slot.key) =
      (slot.needed && !others.contains slot.key) := by
    intro slot isSlot
    cases needed : slot.needed with
    | false => rfl
    | true =>
        have both := same slot.key (spare slot isSlot needed)
        simp [both]
  rw [missing?, missing?, List.find?_congr alike]

theorem fillFromMembers_idle (fits : ∀ slot ∈ slots, Fits view kept slot)
    (ext : ∀ left right : ρ, view left = view right → kept left = kept right → left = right)
    {member : String × Json} (idle : Idle view slots start member) {seen : List String}
    (fresh : member.1 ∉ seen) {record : ρ} (rests : view record member.1 = view start member.1)
    (members : Members) :
    fillFromMembers slots seen record (member :: members) =
      fillFromMembers slots (member.1 :: seen) record members := by
  obtain ⟨⟨slot, set, found, read⟩, shownSame⟩ := idle
  obtain ⟨isSlot, sameKey⟩ := find?_key found
  have unchanged : set record = record := by
    refine ext _ _ (funext fun other => ?_) ((fits slot isSlot).keeps read record)
    by_cases here : other = slot.key
    · subst here
      rw [(fits slot isSlot).own read, shownSame, sameKey, rests]
    · exact (fits slot isSlot).other read record here
  rw [fillFromMembers_fill found fresh read, unchanged]

theorem fillFromMembers_filter (fits : ∀ slot ∈ slots, Fits view kept slot)
    (ext : ∀ left right : ρ, view left = view right → kept left = kept right → left = right)
    (spare : ∀ slot ∈ slots, slot.needed = true → extra slot.key = false)
    {members : Members} (idle : ∀ member ∈ members, extra member.1 = true →
      Idle view slots start member)
    (distinct : members.names.Nodup) {seen others : List String}
    (fresh : ∀ key ∈ seen, key ∉ members.names)
    (same : ∀ key, extra key = false → (key ∈ seen ↔ key ∈ others)) {record : ρ}
    (rests : ∀ key, extra key = true → view record key = view start key) :
    fillFromMembers slots seen record members =
      fillFromMembers slots others record (members.filter fun member => !extra member.1) := by
  induction members generalizing seen others record with
  | nil =>
      rw [List.filter_nil, fillFromMembers, fillFromMembers, missing?_congr spare same]
  | cons member members ih =>
      obtain ⟨key, j⟩ := member
      obtain ⟨idleFirst, idleRest⟩ := List.forall_mem_cons.mp idle
      obtain ⟨absent, distinctRest⟩ := List.nodup_cons.mp distinct
      have unseen : key ∉ seen := fun h => fresh key h List.mem_cons_self
      have freshRest : ∀ other ∈ seen, other ∉ Members.names members :=
        fun other h later => fresh other h (List.mem_cons_of_mem _ later)
      have freshNext : ∀ other ∈ key :: seen, other ∉ Members.names members :=
        List.forall_mem_cons.mpr ⟨absent, freshRest⟩
      cases isExtra : extra key with
      | true =>
          have sameNext : ∀ other, extra other = false →
              (other ∈ key :: seen ↔ other ∈ others) := by
            intro other plain
            have apart : other ≠ key := by
              rintro rfl
              simp [isExtra] at plain
            rw [List.mem_cons, or_iff_right apart, same other plain]
          rw [fillFromMembers_idle fits ext (idleFirst isExtra) unseen (rests key isExtra) members,
            ih idleRest distinctRest freshNext sameNext rests, List.filter_cons_of_neg]
          simp [isExtra]
      | false =>
          have unseenOther : key ∉ others := fun h => unseen ((same key isExtra).mpr h)
          rw [List.filter_cons_of_pos (by simp [isExtra])]
          cases found : slots.find? (·.key = key) with
          | none =>
              rw [fillFromMembers_pass found, fillFromMembers_pass found,
                ih idleRest distinctRest freshRest same rests]
          | some slot =>
              obtain ⟨isSlot, sameKey⟩ := find?_key found
              cases read : slot.fill.fromJson j with
              | error problem =>
                  rw [fillFromMembers_refused found unseen read,
                    fillFromMembers_refused found unseenOther read]
              | ok set =>
                  have sameNext : ∀ other, extra other = false →
                      (other ∈ key :: seen ↔ other ∈ key :: others) := by
                    intro other plain
                    rw [List.mem_cons, List.mem_cons, same other plain]
                  have restsNext : ∀ other, extra other = true →
                      view (set record) other = view start other := by
                    intro other otherExtra
                    have apart : other ≠ slot.key := by
                      rintro rfl
                      rw [sameKey, isExtra] at otherExtra
                      cases otherExtra
                    rw [(fits slot isSlot).other read record apart, rests other otherExtra]
                  rw [fillFromMembers_fill found unseen read,
                    fillFromMembers_fill found unseenOther read,
                    ih idleRest distinctRest freshNext sameNext restsNext]

end

end Record

end MuxConsole.Json
