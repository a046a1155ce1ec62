import MuxConsole.Proofs.Input.Snapshot
import MuxConsole.Proofs.Json.Forms
import MuxConsole.Proofs.Json.ReadBack
import MuxConsole.Proofs.Text.Order

/-!
# Inputs are decoded independently of each other

A reply with many inputs is decoded as the replies with one input each would be, taken in
the order of the identifiers.  So the order in which the inputs stand in it does not
matter, and what one of them says has no bearing on the others, unless it cannot be read.
-/

namespace MuxConsole.Input.Snapshot

open Json

def HasOneMember (payload : Bytes) : Prop :=
  ∃ (whole key part : Spaced Unit) (blanks : Bytes), whole.bytes = payload ∧
    whole.text = Ascii.openBrace ::
      (blanks ++ enclosed Ascii.closeBrace [assigned key part]) ∧
    IsBlank blanks ∧ IsQuoted key.text ∧ IsJson part.text

/-- A payload that holds just these inputs, in this order. -/
structure Carries (payload : Bytes) (entries : Members) : Prop where
  single : HasOneMember payload
  parses : parse payload = .ok (.object [("values", .object entries)])

namespace Carries

variable {payload : Bytes} {entries : Members}

theorem distinct (carries : Carries payload entries) : entries.names.Nodup := by
  cases nested_of_parse carries.parses with
  | object _ each =>
      cases each _ (List.mem_singleton.mpr rfl) with
      | object distinct _ => exact distinct

theorem reply (carries : Carries payload entries) :
    replySchema.parse payload = .ok (KeyTable.ofList entries) := by
  obtain ⟨⟨whole, key, part, blanks, rfl, layout, blank, quoted, isJson⟩, parses⟩ := carries
  have keys : ∀ member ∈ [(key, part)], Spells member.1.text (spelled member.1.text) :=
    List.forall_mem_singleton.mpr quoted.spells
  have values : ∀ member ∈ [(key, part)], Steady (value 126) member.2.text :=
    List.forall_mem_singleton.mpr (isJson.steady 126)
  have gives := gives_object Prod.fst Prod.snd keys values blank
  rw [List.map_singleton, ← layout] at gives
  have read : parse whole.bytes = _ := whole_of_gives gives
  rw [parses, List.mapM_cons, List.mapM_nil] at read
  cases named : spelled key.text with
  | error problem =>
      rw [named] at read
      cases read
  | ok name =>
      cases content : outcome (value 126) part.text with
      | error problem =>
          rw [named, content] at read
          cases read
      | ok j =>
          rw [named, content] at read
          cases read
          have spells : Spells key.text (.ok "values") := named ▸ quoted.spells
          have replied := gives_reply spells (Schema.gives_table_json isJson content) blank
          rw [← layout] at replied
          exact whole_of_gives replied

theorem decode_single {entry : String × Json} (carries : Carries payload [entry]) :
    decode payload =
      ((readOne entry).1.map fun listed => KeyTable.ofList [listed], (readOne entry).2) := by
  rw [decode_of_reply carries.reply,
    KeyTable.ofList_of_sorted (List.pairwise_singleton KeyTable.Ahead entry)]
  cases first : (readOne entry).1 with
  | error fault =>
      simp only [readEntries_error first, readOne_log first]
      rfl
  | ok listed =>
      rw [readEntries_ok first, readEntries, List.append_nil]
      rfl

end Carries

/-! ## Each input by itself -/

section

variable {payload : Bytes} {entries : Members} (carries : Carries payload entries)
  {alone : String × Json → Bytes} (single : ∀ entry ∈ entries, Carries (alone entry) [entry])

theorem mem_of_ordered (carries : Carries payload entries) {entry : String × Json}
    (h : entry ∈ (KeyTable.ofList entries).entries) : entry ∈ entries :=
  (KeyTable.ofList_perm carries.distinct).subset h

include single

theorem decodes_alone_iff {entry : String × Json} (h : entry ∈ entries) :
    (∃ one, (decode (alone entry)).1 = .ok one) ↔ ∃ listed, (readOne entry).1 = .ok listed := by
  rw [(single entry h).decode_single]
  cases (readOne entry).1 <;> simp [Except.map]

/-- A report settles the state of its input and the note on it, and nothing else. -/
theorem decode_alone {entry : String × Json} (h : entry ∈ entries) :
    match entrySchema.fromJson entry.2 with
    | .error problem =>
        decode (alone entry) = (.error (.malformed "values" (.input entry.1 problem)), [])
    | .ok sent =>
        decode (alone entry) =
          (.ok (KeyTable.ofList [(entry.1, { sent with state := meaning sent.report })]),
            notes entry.1 sent.report) := by
  rw [(single entry h).decode_single]
  unfold readOne
  cases entrySchema.fromJson entry.2 <;> rfl

include carries

theorem decodes_iff_alone : (∃ snapshot, (decode payload).1 = .ok snapshot) ↔
    ∀ entry ∈ entries, ∃ one, (decode (alone entry)).1 = .ok one := by
  rw [decodes_iff carries.reply]
  constructor
  · intro each entry isEntry
    have inOrder := (KeyTable.ofList_perm carries.distinct).mem_iff.mpr isEntry
    exact (decodes_alone_iff single isEntry).mpr (each entry inOrder)
  · intro each entry inOrder
    have isEntry := mem_of_ordered carries inOrder
    exact (decodes_alone_iff single isEntry).mp (each entry isEntry)

theorem entries_alone {snapshot : Snapshot} (decoded : (decode payload).1 = .ok snapshot) :
    List.Forall₂ (fun entry listed => listed.1 = entry.1 ∧
        ∃ one, (decode (alone entry)).1 = .ok one ∧ one.entries = [listed])
      (KeyTable.ofList entries).entries snapshot.entries := by
  obtain ⟨each, -⟩ := entries_of_decode carries.reply decoded
  rw [List.forall₂_iff_zip] at each ⊢
  refine ⟨each.1, fun {entry listed} both => ?_⟩
  have read := each.2 both
  have isEntry := mem_of_ordered carries (List.of_mem_zip both).1
  refine ⟨readOne_ident read, KeyTable.ofList [listed], ?_, ?_⟩
  · rw [(single entry isEntry).decode_single, read]
    rfl
  · rw [KeyTable.ofList_of_sorted (List.pairwise_singleton KeyTable.Ahead listed)]

theorem fault_alone {fault : Fault} (refused : (decode payload).1 = .error fault) :
    ∃ before entry after, (KeyTable.ofList entries).entries = before ++ entry :: after ∧
      (∀ earlier ∈ before, ∃ one, (decode (alone earlier)).1 = .ok one) ∧
      (decode (alone entry)).1 = .error fault := by
  obtain ⟨before, entry, after, split, each, fails⟩ := fault_of_decode carries.reply refused
  have isEntry : ∀ other ∈ before ++ entry :: after, other ∈ entries :=
    split ▸ fun _ => mem_of_ordered carries
  obtain ⟨isEarlier, isFailing⟩ := List.forall_mem_append.mp isEntry
  refine ⟨before, entry, after, split, fun earlier h => ?_, ?_⟩
  · exact (decodes_alone_iff single (isEarlier earlier h)).mpr (each earlier h)
  · rw [(single entry (isFailing entry List.mem_cons_self)).decode_single, fails]
    rfl

theorem log_alone : ∃ decoded left, (KeyTable.ofList entries).entries = decoded ++ left ∧
    (∀ entry ∈ decoded, ∃ one, (decode (alone entry)).1 = .ok one) ∧
    (∀ entry ∈ left.head?, ∃ fault, (decode (alone entry)).1 = .error fault) ∧
    (decode payload).2 = decoded.flatMap fun entry => (decode (alone entry)).2 := by
  obtain ⟨decoded, left, split, each, fails, notes⟩ := log_of_decode carries.reply
  have isEntry : ∀ other ∈ decoded ++ left, other ∈ entries :=
    split ▸ fun _ => mem_of_ordered carries
  obtain ⟨isDecoded, isLeft⟩ := List.forall_mem_append.mp isEntry
  refine ⟨decoded, left, split, fun entry h => ?_, fun entry h => ?_, ?_⟩
  · exact (decodes_alone_iff single (isDecoded entry h)).mpr (each entry h)
  · obtain ⟨fault, refused⟩ := fails entry h
    refine ⟨fault, ?_⟩
    rw [(single entry (isLeft entry (List.mem_of_mem_head? h))).decode_single, refused]
    rfl
  · rw [notes]
    refine List.flatMap_congr fun entry h => ?_
    rw [(single entry (isDecoded entry h)).decode_single]

end

variable {payload : Bytes} {entries : Members}

/-- Inputs are decoded independently of each other. -/
theorem inputs_decoded_one_by_one (carries : Carries payload entries)
    {alone : String × Json → Bytes} (single : ∀ entry ∈ entries, Carries (alone entry) [entry]) :
    ∃ ordered : Members, ordered.Perm entries ∧
      ordered.Pairwise (fun left right => Utf8.encode left.1 < Utf8.encode right.1) ∧
      -- The reply can be decoded if each input can be decoded alone.
      ((∃ snapshot, (decode payload).1 = .ok snapshot) ↔
        ∀ entry ∈ entries, ∃ one, (decode (alone entry)).1 = .ok one) ∧
      -- Its snapshot has the entries of theirs, by identifier.
      (∀ snapshot, (decode payload).1 = .ok snapshot →
        List.Forall₂ (fun entry listed => listed.1 = entry.1 ∧
          ∃ one, (decode (alone entry)).1 = .ok one ∧ one.entries = [listed])
          ordered snapshot.entries) ∧
      -- The first input that cannot be decoded is the one complained about.
      (∀ fault, (decode payload).1 = .error fault →
        ∃ before entry after, ordered = before ++ entry :: after ∧
          (∀ earlier ∈ before, ∃ one, (decode (alone earlier)).1 = .ok one) ∧
          (decode (alone entry)).1 = .error fault) ∧
      -- Up to there the notes are those on each input.
      (∃ decoded left, ordered = decoded ++ left ∧
        (∀ entry ∈ decoded, ∃ one, (decode (alone entry)).1 = .ok one) ∧
        (∀ entry ∈ left.head?, ∃ fault, (decode (alone entry)).1 = .error fault) ∧
        (decode payload).2 = decoded.flatMap fun entry => (decode (alone entry)).2) ∧
      -- A report settles the state of its input and the note on it, and nothing else.
      (∀ entry ∈ entries, match entrySchema.fromJson entry.2 with
        | .error problem =>
            decode (alone entry) = (.error (.malformed "values" (.input entry.1 problem)), [])
        | .ok sent =>
            decode (alone entry) =
              (.ok (KeyTable.ofList [(entry.1, { sent with state := meaning sent.report })]),
                notes entry.1 sent.report)) ∧
      -- The order of the inputs does not matter.
      ∀ other others, Carries other others → others.Perm entries →
        decode other = decode payload := by
  refine ⟨(KeyTable.ofList entries).entries, KeyTable.ofList_perm carries.distinct,
    (KeyTable.ofList entries).sorted.imp Utf8.encode_lt, decodes_iff_alone carries single,
    fun _ => entries_alone carries single, fun _ => fault_alone carries single,
    log_alone carries single, fun _ => decode_alone single, ?_⟩
  intro other others carriesOther permOther
  rw [decode_of_reply carriesOther.reply, decode_of_reply carries.reply,
    KeyTable.ofList_eq_of_perm carries.distinct permOther]

/-! ## Replies as they are rendered -/

def reply (entries : Members) : Json := .object [("values", .object entries)]

theorem carries_rendered {entries : Members} (nested : Nested greatestDepth (reply entries))
    (integral : Integral (reply entries)) : Carries (rendered (reply entries)) entries where
  single := by
    cases nested with
    | object _ nestedValues =>
        cases integral with
        | object integralValues =>
            have only : ("values", Json.object entries) ∈ [("values", Json.object entries)] :=
              List.mem_singleton_self _
            have key := denotesText_renderText "values"
            have value := isJson_rendered (nestedValues _ only) (integralValues _ only)
            exact ⟨.tight _ (), .tight _ (), .tight _ (), [], Spaced.bytes_tight _ _,
              rendered_members _, List.forall_mem_nil _, key.isQuoted, value⟩
  parses := parse_of_isTextOf (isTextOf_rendered nested integral)

def entryOf (stat : Stat) : Json := .object [("inputstat", stat.toJson)]

def oddInputs : Members :=
  [("c", .null), ("b", entryOf { Stat.start with report := "odd" }), ("a", entryOf Stat.start)]

theorem nested_integral_entryOf (stat : Stat) (bare : stat.offset = none) :
    Nested 125 (entryOf stat) ∧ Integral (entryOf stat) := by
  have each : ∀ member ∈ Record.written Stat.fields stat, Nested 123 member.2 ∧ Integral member.2 :=
    Stat.forall_written (P := fun j => Nested 123 j ∧ Integral j) (fun _ => ⟨.number _, .number _⟩)
      (fun s => ⟨.text s, .text s⟩) (by simp [bare])
  have distinct := (Record.names_written stat).nodup Stat.distinct_fields
  have nested : Nested 124 stat.toJson :=
    Stat.toJson_eq stat ▸ .object distinct fun member h => (each member h).1
  have integral : Integral stat.toJson :=
    Stat.toJson_eq stat ▸ .object fun member h => (each member h).2
  exact ⟨.object (List.nodup_singleton _) (List.forall_mem_singleton.mpr nested),
    .object (List.forall_mem_singleton.mpr integral)⟩

theorem carries_of_oddInputs {entries : Members} (some : ∀ entry ∈ entries, entry ∈ oddInputs)
    (distinct : entries.names.Nodup) : Carries (rendered (reply entries)) entries := by
  have odd := nested_integral_entryOf { Stat.start with report := "odd" } rfl
  have good := nested_integral_entryOf Stat.start rfl
  have each : ∀ entry ∈ oddInputs, Nested 125 entry.2 ∧ Integral entry.2 := by
    simp [oddInputs, odd, good, Nested.null, Integral.null]
  refine carries_rendered ?_ ?_
  · refine .object (List.nodup_singleton _) (List.forall_mem_singleton.mpr ?_)
    exact .object distinct fun entry h => (each entry (some entry h)).1
  · refine .object (List.forall_mem_singleton.mpr ?_)
    exact .object fun entry h => (each entry (some entry h)).2

theorem odd_inputs_in_any_order :
    Carries (rendered (reply oddInputs)) oddInputs ∧
      (∀ entry ∈ oddInputs, Carries (rendered (reply [entry])) [entry]) ∧
      decode (rendered (reply oddInputs.reverse)) = decode (rendered (reply oddInputs)) := by
  have distinct : oddInputs.names.Nodup := by decide
  have carries := carries_of_oddInputs (fun _ h => h) distinct
  have single : ∀ entry ∈ oddInputs, Carries (rendered (reply [entry])) [entry] :=
    fun entry h => carries_of_oddInputs (by simpa using h) (List.nodup_singleton _)
  have reversed : Carries (rendered (reply oddInputs.reverse)) oddInputs.reverse :=
    carries_of_oddInputs (fun _ h => List.mem_reverse.mp h) (by decide)
  obtain ⟨-, -, -, -, -, -, -, -, anyOrder⟩ := inputs_decoded_one_by_one carries single
  exact ⟨carries, single, anyOrder _ _ reversed (List.reverse_perm _)⟩

end MuxConsole.Input.Snapshot
