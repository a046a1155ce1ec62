import MuxConsole.Proofs.Json.Follows

/-!
# Records are read back from what they are written as

If the slots of a record and what it is written with agree on every field, the record is
read back from its members, and from the text of its members as far as each slot reads its
own value from that value's text.
-/

namespace MuxConsole.Json

theorem Schema.parse_compact {α : Type} {schema : Schema α} {j : Json} {result : Except Problem α}
    (gives : Gives (schema.fromText greatestDepth) (rendered j) result) :
    schema.parse (Utf8.encode j.compact) = result := by
  rw [encode_compact, parse, ← Spaced.bytes_tight (rendered j) ()]
  exact whole_of_gives gives

/-! ## Lists -/

theorem beginsItem_object (members : Members) : BeginsItem (rendered (.object members)) := by
  rw [rendered_object]
  exact ⟨_, _, rfl, by decide⟩

theorem Schema.gives_list_rendered {α : Type} {schema : Schema α} {depth : Nat}
    {items : List Json} (begins : ∀ item ∈ items, BeginsItem (rendered item))
    (gives : ∀ item ∈ items,
      Gives (schema.fromText depth) (rendered item) (schema.fromJson item)) :
    Gives (schema.list.fromText (depth + 1)) (rendered (.list items))
      (schema.list.fromJson (.list items)) := by
  refine gives_of_head (fun input => rfl) fun rest _ => ?_
  have givesEach : ∀ item ∈ items.map tightItem,
      Gives (schema.fromText depth) item.text (schema.fromJson item.content) :=
    List.forall_mem_map.mpr gives
  have read := items_enclosed givesEach (List.forall_mem_map.mpr begins) (List.forall_mem_nil _)
    rest
  rw [map_bytes_tightItem, List.mapM_map] at read
  rw [rendered_list]
  exact read

/-! ## Records -/

namespace Record

variable {ρ : Type} {slots : List (Slot ρ)}

theorem fillWith_fromJson (members : Members) (seen : List String) (record : ρ) :
    fillWith slots (fun member : String × Json => .ok member.1)
        (fun slot member => slot.fill.fromJson member.2) seen record members =
      fillFromMembers slots seen record members := by
  induction members generalizing seen record with
  | nil => rfl
  | cons member members ih =>
      cases found : slots.find? (·.key = member.1) with
      | none => simp [fillWith, fillFromMembers, found, bind, Except.bind, ih]
      | some slot => simp [fillWith, fillFromMembers, found, bind, Except.bind, ih]

/-- Slots and the fields that a record is written with, one for one. -/
structure Lawful (fields : List (String × (ρ → Option Json))) (slots : List (Slot ρ)) : Prop where
  keys : fields.map (·.1) = slots.map (·.key)
  distinct : (fields.map (·.1)).Nodup
  fits : ∀ slot ∈ slots, Fits (view fields) (fun _ => ()) slot
  full : ∀ field ∈ fields, ∀ record, field.2 record ≠ none
  ext : ∀ left right : ρ, (∀ field ∈ fields, field.2 left = field.2 right) → left = right

variable {fields : List (String × (ρ → Option Json))}

theorem Lawful.fill_written (lawful : Lawful fields slots) (start record : ρ) :
    fillFromMembers slots [] start (written fields record) = .ok record := by
  have complete : ∀ slot ∈ slots, slot.needed = true → view fields record slot.key ≠ none := by
    intro slot isSlot _
    have isKey : slot.key ∈ fields.map (·.1) := lawful.keys ▸ List.mem_map_of_mem isSlot
    obtain ⟨field, isField, named⟩ := List.mem_map.mp isKey
    rw [← named, view_of_field lawful.distinct isField]
    exact lawful.full field isField record
  obtain ⟨result, filled, view, -⟩ := exists_fill_written lawful.keys lawful.distinct lawful.fits
    complete fun field isField none => absurd none (lawful.full field isField record)
  rw [filled, lawful.ext result record (fields_of_view lawful.distinct view)]

end Record

section

variable {ρ : Type} {fields : List (String × (ρ → Option Json))} {slots : List (Slot ρ)}
  {title : String} {start record : ρ} {depth : Nat}

theorem Schema.gives_record_rendered {members : Members}
    (asked : ∀ member ∈ members, ∃ slot, slots.find? (·.key = member.1) = some slot)
    (gives : ∀ member ∈ members, ∀ slot ∈ slots, slot.key = member.1 →
      Gives (slot.fill.fromText depth) (rendered member.2) (slot.fill.fromJson member.2)) :
    Gives ((Schema.record title start slots).fromText (depth + 1)) (rendered (.object members))
      (Record.fillFromMembers slots [] start members) := by
  have fills : ∀ member ∈ members, Record.Fills (tightMember member).key (tightMember member).value
      slots depth (.ok member.1) fun slot => slot.fill.fromJson member.2 := by
    intro member h
    refine ⟨spells_tightMember member, fun slot isSlot named => ?_, fun unasked => ?_⟩
    · exact gives member h slot isSlot (Except.ok.inj named).symm
    · obtain ⟨slot, found⟩ := asked member h
      rw [unasked member.1 rfl] at found
      cases found
  have read : Gives ((Schema.record title start slots).fromText (depth + 1)) _ _ :=
    Schema.gives_record_object (fun member => (tightMember member).key)
      (fun member => (tightMember member).value) fills (List.forall_mem_nil _)
  rw [← rendered_members, Record.fillWith_fromJson] at read
  exact read

theorem Record.gives_written (keys : fields.map (·.1) = slots.map (·.key))
    (distinct : (fields.map (·.1)).Nodup)
    (gives : ∀ member ∈ written fields record, ∀ slot ∈ slots, slot.key = member.1 →
      Gives (slot.fill.fromText depth) (rendered member.2) (slot.fill.fromJson member.2)) :
    Gives ((Schema.record title start slots).fromText (depth + 1))
      (rendered (.object (written fields record)))
      (fillFromMembers slots [] start (written fields record)) :=
  Schema.gives_record_rendered (fun _ h => (asked_of_written keys distinct h).2) gives

theorem Record.Lawful.gives_written (lawful : Lawful fields slots)
    (follows : ∀ slot ∈ slots, slot.fill.Follows depth)
    (each : ∀ member ∈ written fields record, IsReadBack depth member.2) :
    Gives ((Schema.record title start slots).fromText (depth + 1))
      (rendered (.object (written fields record))) (.ok record) := by
  rw [← lawful.fill_written start record]
  exact Record.gives_written lawful.keys lawful.distinct fun member h slot isSlot _ =>
    (follows slot isSlot).gives (each member h)

end

/-! ## Records of texts -/

structure TextField (ρ : Type) where
  key : String
  get : ρ → String
  set : String → ρ → ρ

namespace TextField

variable {ρ : Type} {fields : List (TextField ρ)}

/-- The fields hold their texts apart from each other, and there is no more to a record. -/
structure Lawful (fields : List (TextField ρ)) : Prop where
  distinct : (fields.map (·.key)).Nodup
  own : ∀ field ∈ fields, ∀ s record, field.get (field.set s record) = s
  other : ∀ field ∈ fields, ∀ another ∈ fields, another.key ≠ field.key →
    ∀ s record, another.get (field.set s record) = another.get record
  ext : ∀ left right : ρ, (∀ field ∈ fields, field.get left = field.get right) → left = right

def shown (fields : List (TextField ρ)) : List (String × (ρ → Option Json)) :=
  fields.map fun field => (field.key, fun record => some (.text (field.get record)))

def slots (needed : String → Bool) (fields : List (TextField ρ)) : List (Slot ρ) :=
  fields.map fun field => ⟨field.key, needed field.key, Schema.string.map field.set⟩

def members (fields : List (TextField ρ)) (record : ρ) : Members :=
  fields.map fun field => (field.key, .text (field.get record))

theorem written_shown (fields : List (TextField ρ)) (record : ρ) :
    Record.written (shown fields) record = members fields record := by
  simp [Record.written, shown, members, List.flatMap_map, ← List.map_eq_flatMap]

theorem Lawful.distinct_shown (lawful : Lawful fields) : ((shown fields).map (·.1)).Nodup := by
  simpa [shown, Function.comp_def] using lawful.distinct

theorem Lawful.fits (lawful : Lawful fields) (needed : String → Bool) :
    ∀ slot ∈ slots needed fields,
      Record.Fits (Record.view (shown fields)) (fun _ => ()) slot := by
  refine List.forall_mem_map.mpr fun field isField => ?_
  have isShown : (field.key, fun record => some (Json.text (field.get record))) ∈ shown fields :=
    List.mem_map_of_mem isField
  refine Record.fits_of_mirrors Schema.mirrors_string
    (find?_of_nodup lawful.distinct_shown isShown) field.get (fun _ => rfl)
    (lawful.own field isField) ?_ (fun _ _ => rfl) _
  refine List.forall_mem_map.mpr fun another isAnother apart s record => ?_
  dsimp only
  rw [lawful.other field isField another isAnother apart]

theorem Lawful.record (lawful : Lawful fields) (needed : String → Bool) :
    Record.Lawful (shown fields) (slots needed fields) where
  keys := by simp [shown, slots]
  distinct := lawful.distinct_shown
  fits := lawful.fits needed
  full := by simp [shown]
  ext left right same := by
    refine lawful.ext left right fun field isField => ?_
    have shownSame := same _ (List.mem_map_of_mem isField)
    simpa using shownSame

theorem Lawful.fill_members (lawful : Lawful fields) (needed : String → Bool) (start record : ρ) :
    Record.fillFromMembers (slots needed fields) [] start (members fields record) =
      .ok record := by
  rw [← written_shown]
  exact (lawful.record needed).fill_written start record

theorem Lawful.gives_members (lawful : Lawful fields) (needed : String → Bool) (title : String)
    (start record : ρ) (depth : Nat) :
    Gives ((Schema.record title start (slots needed fields)).fromText (depth + 1))
      (rendered (.object (members fields record))) (.ok record) := by
  have follows : ∀ slot ∈ slots needed fields, slot.fill.Follows depth :=
    List.forall_mem_map.mpr fun _ _ => Schema.follows_map Schema.follows_string _
  have each : ∀ member ∈ Record.written (shown fields) record, IsReadBack depth member.2 := by
    refine Record.forall_written (List.forall_mem_map.mpr fun field _ j shows => ?_)
    obtain rfl := Option.some.inj shows
    exact isReadBack_text _
  rw [← written_shown]
  exact (lawful.record needed).gives_written follows each

end TextField

end MuxConsole.Json
