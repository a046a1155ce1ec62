import MuxConsole.Proofs.Input.Snapshot
import MuxConsole.Proofs.Json.ReadBack

/-!
# Statistics survive being written and read again

The statistics of an input show every field of theirs that the server has sent, as it has
sent it.  A snapshot that is written and wrapped as a reply again is decoded to itself, if
its timestamp offsets are integers of at most 64 bits: larger ones are doubles, which may
be read as others than they are written for.
-/

namespace MuxConsole.Input

open Json

namespace Stat

theorem toJson_get? (stat : Stat) (name : String) :
    stat.toJson.get? name = Record.view fields stat name := by
  rw [toJson_eq]
  exact Record.get?_written distinct_fields stat name

theorem get?_of_read {members : Members} {stat : Stat}
    (read : schema.fromJson (.object members) = .ok stat) {name : String}
    (isField : name ∈ fields.map (·.1)) {j : Json} (sent : Members.get? name members = some j)
    (nonnull : j ≠ .null) : stat.toJson.get? name = some j := by
  have isKey : name ∈ slots.map (·.key) := isField
  have asked := Option.ne_none_iff_exists'.mpr (Record.exists_find? isKey)
  rw [toJson_get?, Record.view_of_mem fits read (Members.mem_of_get? sent) asked,
    shown_eq_some nonnull]

end Stat

namespace Snapshot

/-! ## What has been sent -/

/-- The entry of an input that holds its statistics: under their name, or as the only
item. -/
inductive Holds : Json → Json → Prop
  | object {members : Members} {inner : Json} (h : members.get? "inputstat" = some inner) :
      Holds (.object members) inner
  | list (inner : Json) : Holds (.list [inner]) inner

theorem Holds.read {entry inner : Json} (holds : Holds entry inner) {sent : Stat}
    (read : entrySchema.fromJson entry = .ok sent) : Stat.schema.fromJson inner = .ok sent := by
  cases holds with
  | @object members _ h =>
      obtain ⟨set, before, visited, rest, readInner, filled, absent⟩ :=
        Record.fill_of_mem read (Members.mem_of_get? h) rfl
      obtain ⟨stat, readStat, rfl⟩ := exists_of_map_ok readInner
      have unasked : ∀ name ∈ Members.names rest,
          [Slot.needs "inputstat" Stat.schema fun stat _ => stat].find? (·.key = name) = none := by
        intro name isName
        have apart : "inputstat" ≠ name := fun same => absent (same ▸ isName)
        simp [Slot.needs, apart]
      obtain rfl := Record.fill_unasked filled unasked
      exact readStat
  | list =>
      obtain ⟨set, readInner, last⟩ := exists_of_bind_ok read
      obtain ⟨stat, readStat, rfl⟩ := exists_of_map_ok readInner
      cases last
      exact readStat

/-! ## Written again -/

/-- A snapshot that has been written, as a reply again. -/
def wrapped : Json → Json
  | .object inputs =>
      .object [("values", .object (inputs.map fun (ident, j) =>
        (ident, .object [("inputstat", j)])))]
  | j => j

def rewrapOne (listed : String × Stat) : String × Json :=
  (listed.1, .object [("inputstat", listed.2.toJson)])

theorem wrapped_toJson (snapshot : Snapshot) : wrapped snapshot.toJson =
    .object [("values", .object (snapshot.entries.map rewrapOne))] := by
  simp only [wrapped, toJson, List.map_map]
  rfl

theorem entry_rewrapOne (listed : String × Stat) :
    entrySchema.fromJson (rewrapOne listed).2 = .ok { listed.2 with state := none } := by
  have read : (Slot.needs "inputstat" Stat.schema fun stat _ => stat).fill.fromJson
      listed.2.toJson = .ok fun _ => { listed.2 with state := none } := by
    simp only [Slot.needs, Schema.map, Stat.fromJson_toJson, Except.map]
  change Record.fillFromMembers [.needs "inputstat" Stat.schema fun stat _ => stat] [] Stat.start
    [("inputstat", listed.2.toJson)] = _
  rw [Record.fillFromMembers_fill rfl List.not_mem_nil read]
  rfl

theorem readOne_rewrapOne {listed : String × Stat}
    (same : listed.2.state = meaning listed.2.report) :
    readOne (rewrapOne listed) = (.ok listed, notes listed.1 listed.2.report) := by
  simp only [readOne, entry_rewrapOne, ← same]
  rfl

theorem isReadBack_stat {depth : Nat} {stat : Stat}
    (integer : ∀ n, stat.offset = some n → n.IsInteger) : IsReadBack (depth + 1) stat.toJson := by
  have each := Stat.forall_written (P := IsReadBack depth) (fun _ => isReadBack_number trivial)
    isReadBack_text fun n h => isReadBack_number (integer n h)
  rw [Stat.toJson_eq]
  exact isReadBack_object each ((Record.names_written stat).nodup Stat.distinct_fields)

theorem reply_wrapped {snapshot : Snapshot}
    (integer : ∀ listed ∈ snapshot.entries, ∀ n, listed.2.offset = some n → n.IsInteger) :
    replySchema.parse (rendered (wrapped snapshot.toJson)) =
      .ok (KeyTable.ofList (snapshot.entries.map rewrapOne)) := by
  have each : ∀ member ∈ snapshot.entries.map rewrapOne, IsReadBack 125 member.2 := by
    intro member h
    obtain ⟨listed, isListed, rfl⟩ := List.mem_map.mp h
    exact isReadBack_object
      (List.forall_mem_singleton.mpr (isReadBack_stat (integer listed isListed)))
      (List.nodup_singleton _)
  have inputs : Gives ((Schema.table .json).fromText 126)
      (tightMember ("values", .object (snapshot.entries.map rewrapOne))).value.text _ :=
    gives_table_rendered each
  have named := spells_tightMember ("values", .object (snapshot.entries.map rewrapOne))
  have gives := gives_reply named inputs (List.forall_mem_nil _)
  rw [wrapped_toJson, ← Spaced.bytes_tight (rendered _) ()]
  refine whole_of_gives ?_
  rw [Spaced.tight, rendered_members]
  exact gives

/-- Statistics survive being written and read again. -/
theorem decode_wrapped {payload : Bytes} {snapshot : Snapshot} {log : Log}
    (accepted : decode payload = (.ok snapshot, log)) :
    -- The snapshot is decoded from what it is wrapped as, if its offsets are integers.
    ((∀ listed ∈ snapshot.entries, ∀ n, listed.2.offset = some n → n.IsInteger) →
      decode (Utf8.encode (wrapped snapshot.toJson).compact) = (.ok snapshot, log)) ∧
    -- Every field that an input has been sent with is shown as it has been sent.
    ∃ values, replySchema.parse payload = .ok values ∧
      ∀ ident entry members, values.get? ident = some entry → Holds entry (.object members) →
        ∃ stat, snapshot.get? ident = some stat ∧
          ∀ name ∈ Stat.fields.map (·.1), ∀ j, Members.get? name members = some j → j ≠ .null →
            stat.toJson.get? name = some j := by
  cases reply : replySchema.parse payload with
  | error problem =>
      rw [decode, Reply.record, reply] at accepted
      cases accepted
  | ok values =>
      obtain ⟨each, notes⟩ := entries_of_decode reply (congrArg Prod.fst accepted)
      rw [accepted] at notes
      refine ⟨fun integer => ?_, values, rfl, fun ident entry members isEntry holds => ?_⟩
      · obtain ⟨states, noted⟩ := states_of_read each
        have again : List.Forall₂ (fun entry listed => (readOne entry).1 = .ok listed)
            (snapshot.entries.map rewrapOne) snapshot.entries := by
          rw [List.forall₂_map_left_iff, List.forall₂_same]
          intro listed isListed
          rw [readOne_rewrapOne (states listed isListed)]
        have names : (snapshot.entries.map rewrapOne).map (·.1) = snapshot.entries.map (·.1) :=
          List.map_map
        have notesAgain := (states_of_read again).2
        rw [encode_compact, decode_of_reply (reply_wrapped integer),
          KeyTable.ofList_of_sorted (KeyTable.sorted_of_keys names snapshot.sorted),
          readEntries_all again, notesAgain, ← noted, ← notes]
        simp only [Except.map, KeyTable.ofList_of_sorted snapshot.sorted]
      · obtain ⟨listed, isListed, read⟩ := exists_listed each (KeyTable.get?_eq_some_iff.mp isEntry)
        obtain ⟨sent, readSent, rfl, -⟩ := exists_sent read
        refine ⟨_, KeyTable.get?_eq_some_iff.mpr isListed, fun name isField j isSent nonnull => ?_⟩
        exact Stat.get?_of_read (holds.read readSent) isField isSent nonnull

def offsets (result : Except Fault Snapshot) : List (Option Number) :=
  match result with
  | .ok snapshot => snapshot.entries.map (·.2.offset)
  | .error _ => []

def again (result : Except Fault Snapshot) : Except Fault Snapshot :=
  match result with
  | .ok snapshot => (decode (Utf8.encode (wrapped snapshot.toJson).compact)).1
  | .error fault => .error fault

def farOffset : Bytes := Utf8.encode <|
  "\x7b\"values\":\x7b\"a\":\x7b\"inputstat\":\x7b\"min_fill\":0,\"max_fill\":0,\"peak_left\":0," ++
  "\"peak_right\":0,\"num_underruns\":0,\"num_overruns\":0," ++
  "\"last_tist_offset\":123456789012345678901\x7d\x7d\x7d\x7d"

theorem far_offset_changes : ∃ snapshot other : Snapshot, (decode farOffset).1 = .ok snapshot ∧
    (decode (Utf8.encode (wrapped snapshot.toJson).compact)).1 = .ok other ∧
      other ≠ snapshot := by
  have first : offsets (decode farOffset).1 = [some (.double ⟨4907451598986591449⟩)] := by
    decide +kernel
  have second : offsets (again (decode farOffset).1) =
      [some (.double ⟨4907451598986591450⟩)] := by
    decide +kernel
  cases read : (decode farOffset).1 with
  | error fault =>
      rw [read] at first
      cases first
  | ok snapshot =>
      rw [read] at first second
      cases reread : (decode (Utf8.encode (wrapped snapshot.toJson).compact)).1 with
      | error fault =>
          simp only [again, reread] at second
          cases second
      | ok other =>
          simp only [again, reread] at second
          refine ⟨snapshot, other, rfl, reread, ?_⟩
          rintro rfl
          rw [first] at second
          exact absurd second (by decide)

def nearOffset : Bytes := Utf8.encode <|
  "\x7b\"values\":\x7b\"a\":\x7b\"inputstat\":\x7b\"state\":\"Streaming (4)\"," ++
  "\"min_fill\":-9,\"max_fill\":90," ++
  "\"last_tist_offset\":-7,\"peak_left\":1,\"peak_right\":2,\"peak_left_slow\":null," ++
  "\"peak_right_slow\":-3,\"num_underruns\":0,\"num_overruns\":5,\"uptime\":\"long\"" ++
  "\x7d\x7d\x7d\x7d"

theorem near_offset_kept : ∃ (snapshot : Snapshot) (log : Log),
    snapshot.entries.map (·.2.offset) = [some (.whole (-7) (by decide))] ∧
      decode nearOffset = (.ok snapshot, log) ∧
      decode (Utf8.encode (wrapped snapshot.toJson).compact) = (.ok snapshot, log) := by
  have sent : offsets (decode nearOffset).1 = [some (.whole (-7) (by decide))] := by
    decide +kernel
  rcases accepted : decode nearOffset with ⟨_ | snapshot, log⟩
  · rw [accepted] at sent
    cases sent
  · rw [accepted] at sent
    refine ⟨snapshot, log, sent, rfl, (decode_wrapped accepted).1 fun listed isListed n shows => ?_⟩
    have isOffset : listed.2.offset ∈ snapshot.entries.map (·.2.offset) :=
      List.mem_map_of_mem isListed
    rw [show snapshot.entries.map (·.2.offset) = _ from sent, shows, List.mem_singleton] at isOffset
    cases isOffset
    trivial

end Snapshot

end MuxConsole.Input
