import MuxConsole.Settings
import MuxConsole.Proofs.Json.Follows
import MuxConsole.Proofs.Text.Utf8

/-!
# Settings files

A settings file is an object with any of the settings in any order.  Those that are in it
are taken from it, the others have their defaults, and whatever else is in it is noted once
by its name.  No file gets by with a timeout of nothing.
-/

namespace MuxConsole

def Number.IsZero : Number → Prop
  | .whole n _ => n = 0
  | .double d => d.isZero = true

namespace Settings

open Json

/-! ## What settings show -/

def fields : List (String × (Settings → Option Json)) := [
  ("host", fun s => some (.text s.host)),
  ("statsPort", fun s => some (.ofWord s.statsPort)),
  ("rcPort", fun s => some (.ofWord s.remotePort)),
  ("legacyPort", fun s => some (.ofWord s.legacyPort)),
  ("expectedService", fun s => some (.text s.expectedService)),
  ("connectTimeoutMs", fun s => some (.ofWord s.connectMillis)),
  ("livenessTimeoutMs", fun s => some (.ofWord s.livenessMillis)),
  ("bulkTimeoutMs", fun s => some (.ofWord s.bulkMillis))]

theorem toJson_eq (s : Settings) : s.toJson = .object (Record.written fields s) := rfl

theorem keys_slots : fields.map (·.1) = slots.map (·.key) := rfl

/-- A file that has none of the fields stands for the same settings as no file. -/
theorem unset_eq_default : unset = default := rfl

/-- What is not noted is what is read. -/
theorem knownKeys_eq : knownKeys = slots.map (·.key) := rfl

theorem distinct_fields : (fields.map (·.1)).Nodup := by decide

theorem fits : ∀ slot ∈ slots, Record.Fits (Record.view fields) (fun _ => ()) slot := by
  intro slot isSlot
  simp only [slots, List.mem_cons, List.not_mem_nil, or_false] at isSlot
  rcases isSlot with rfl | rfl | rfl | rfl | rfl | rfl | rfl | rfl
  all_goals
    apply Record.fits_of_mirrors
    case mirrors =>
      first
        | exact Schema.mirrors_word
        | exact Schema.mirrors_string
    case found => rfl
    case same => exact fun _ => rfl
    case own => exact fun _ _ => rfl
    case other => simp [fields]
    case keeps => exact fun _ _ => rfl

theorem follows (depth : Nat) : ∀ slot ∈ slots, slot.fill.Follows depth := by
  simp [slots, Slot.allows, Schema.follows_map, Schema.follows_string, Schema.follows_word]

theorem ext_fields {left right : Settings}
    (same : ∀ field ∈ fields, field.2 left = field.2 right) : left = right := by
  simp only [fields, List.forall_mem_cons, Option.some.injEq, Schema.mirrors_word.injective.eq_iff,
    Schema.mirrors_string.injective.eq_iff] at same
  cases left
  cases right
  simp_all

/-! ## The settings of a file -/

def names : List String := [
  "host", "statsPort", "rcPort", "legacyPort", "expectedService", "connectTimeoutMs",
  "livenessTimeoutMs", "bulkTimeoutMs"]

def timeouts : List String := ["connectTimeoutMs", "livenessTimeoutMs", "bulkTimeoutMs"]

/-- The settings of these names, and the defaults in the place of the others. -/
def within (s : Settings) (present : List String) : Settings where
  host := if "host" ∈ present then s.host else default.host
  statsPort := if "statsPort" ∈ present then s.statsPort else default.statsPort
  remotePort := if "rcPort" ∈ present then s.remotePort else default.remotePort
  legacyPort := if "legacyPort" ∈ present then s.legacyPort else default.legacyPort
  expectedService :=
    if "expectedService" ∈ present then s.expectedService else default.expectedService
  connectMillis := if "connectTimeoutMs" ∈ present then s.connectMillis else default.connectMillis
  livenessMillis :=
    if "livenessTimeoutMs" ∈ present then s.livenessMillis else default.livenessMillis
  bulkMillis := if "bulkTimeoutMs" ∈ present then s.bulkMillis else default.bulkMillis

structure HasTimeouts (s : Settings) : Prop where
  connect : s.connectMillis ≠ 0
  liveness : s.livenessMillis ≠ 0
  bulk : s.bulkMillis ≠ 0

/-- The members of a file have some of the settings, each at most once, and no others under
their names. -/
structure IsIn (s : Settings) (found : Members) : Prop where
  once : ∀ name ∈ names, found.names.count name ≤ 1
  same : ∀ member ∈ found, member.1 ∈ names → s.toJson.get? member.1 = some member.2

theorem names_eq_keys : names = slots.map (·.key) := rfl

theorem within_all (s : Settings) : s.within names = s := rfl

theorem hasTimeouts_default : HasTimeouts default := ⟨by decide, by decide, by decide⟩

theorem HasTimeouts.within {s : Settings} (h : s.HasTimeouts) (present : List String) :
    (s.within present).HasTimeouts where
  connect := by
    dsimp only [Settings.within]
    split_ifs
    exacts [h.connect, hasTimeouts_default.connect]
  liveness := by
    dsimp only [Settings.within]
    split_ifs
    exacts [h.liveness, hasTimeouts_default.liveness]
  bulk := by
    dsimp only [Settings.within]
    split_ifs
    exacts [h.bulk, hasTimeouts_default.bulk]

theorem checkTimeouts_of_hasTimeouts {s : Settings} (h : s.HasTimeouts) :
    checkTimeouts s = .ok s := by
  rw [checkTimeouts, if_neg]
  simp [h.connect, h.liveness, h.bulk]

theorem fields_within (s : Settings) (present : List String) : ∀ field ∈ fields,
    field.2 (s.within present) =
      if field.1 ∈ present then field.2 s else field.2 default := by
  simp only [fields, List.forall_mem_cons, within]
  refine ⟨?_, ?_, ?_, ?_, ?_, ?_, ?_, ?_, List.forall_mem_nil _⟩ <;> split <;> rfl

/-! ### The members among the settings -/

section

variable {s : Settings} {found : Members}

theorem IsIn.nodup (isIn : s.IsIn found) :
    (Members.names (found.filter fun member => member.1 ∈ names)).Nodup := by
  rw [← Members.filter_names (fun name => decide (name ∈ names)), List.nodup_iff_count_le_one]
  intro name
  by_cases known : name ∈ names
  · rw [List.count_filter (by simpa using known)]
    exact isIn.once name known
  · rw [List.count_eq_zero_of_not_mem (by simp [known])]
    exact Nat.zero_le 1

theorem get?_toJson (s : Settings) (name : String) :
    s.toJson.get? name = Record.view fields s name :=
  Record.get?_written distinct_fields s name

theorem IsIn.fill (isIn : s.IsIn found) :
    Record.fillFromMembers slots [] default found = .ok (s.within found.names) := by
  have known {member : String × Json} (h : member ∈ found.filter fun member => member.1 ∈ names) :
      member ∈ found ∧ member.1 ∈ names := by simpa using h
  have reads : ∀ member ∈ found.filter fun member => member.1 ∈ names,
      ∃ slot set, slots.find? (·.key = member.1) = some slot ∧
        slot.fill.fromJson member.2 = .ok set := by
    intro member h
    obtain ⟨isMember, isName⟩ := known h
    exact Record.reads_of_written keys_slots distinct_fields fits
      (Members.mem_of_get? (isIn.same member isMember isName))
  have complete : ∀ slot ∈ slots, slot.needed = true → slot.key ∈ ([] : List String) ∨
      slot.key ∈ Members.names (found.filter fun member => member.1 ∈ names) := by
    simp [slots, Slot.allows]
  obtain ⟨result, filled⟩ := Record.exists_fillFromMembers reads isIn.nodup
    (List.forall_mem_nil _) complete default
  have all : Record.fillFromMembers slots [] default found = .ok result := by
    rw [Record.fillFromMembers_asked]
    exact filled
  have same : result = s.within found.names := by
    refine ext_fields fun field isField => ?_
    have isName : field.1 ∈ names := List.mem_map_of_mem isField
    rw [fields_within s found.names field isField]
    have shown := Record.view_of_field distinct_fields isField
    by_cases present : field.1 ∈ found.names
    · obtain ⟨member, isMember, named⟩ := List.mem_map.mp present
      have isKnown : member.1 ∈ names := by rwa [named]
      have shows : Record.view fields s member.1 = some member.2 :=
        (get?_toJson s member.1).symm.trans (isIn.same member isMember isKnown)
      obtain ⟨slot, asked⟩ := Record.exists_find? (names_eq_keys ▸ isKnown)
      obtain ⟨isSlot, sameKey⟩ := Record.find?_key asked
      obtain ⟨shownSame, -⟩ := (fits slot isSlot).reads (sameKey ▸ shows)
      have read := Record.view_of_mem fits all isMember (asked ▸ Option.some_ne_none slot)
      rw [if_pos present, ← shown, ← shown, ← named, read, shownSame, shows]
    · rw [if_neg present, ← shown, ← shown, Record.view_of_absent fits all present]
  rw [all, same]

end

/-! ## Loading -/

variable {path text : String} {found entries : Members}

/-- The notices about the names in a file that no setting has, once for each and where it
comes first. -/
def notices (path : String) (found : Members) : Log :=
  ((found.names.filter fun name => name ∉ names).eraseDups).map (.unknownSetting path)

theorem load_text (path text : String) : load path (.content (Utf8.encode text)) =
    (ofText path (Utf8.encode text), unknownKeys path (Utf8.encode text)) := by
  simp only [load, FileState.text, Utf8.decode_encode]

theorem unknownKeys_eq {content : Bytes} (h : membersOf content = .ok found) :
    unknownKeys path content = notices path found := by
  have unknown : (Members.names found.collect).filter (fun key => !knownKeys.contains key) =
      (found.names.filter fun name => name ∉ names).eraseDups := by
    have kept := Members.filter_collect (fun key => !knownKeys.contains key) found
    rw [Members.filter_names, kept, Members.names_collect,
      ← Members.filter_names fun key => !knownKeys.contains key]
    simp only [knownKeys_eq, ← names_eq_keys, List.contains_eq_mem, ← decide_not]
  rw [unknownKeys, parse_eq_object.mpr ⟨found, h, rfl⟩, notices]
  exact congrArg (List.map _) unknown

theorem parse_schema {content : Bytes} (h : membersOf content = .ok found) :
    schema.parse content = Record.fillFromMembers slots [] default found := by
  rw [schema, unset_eq_default]
  exact Schema.parse_record (follows _) h

theorem eq_zero_of_ofWord {x : UInt64} {zero : Number} (isZero : zero.IsZero)
    (same : some (Json.ofWord x) = some (.number zero)) : x = 0 := by
  obtain rfl := Json.number.inj (Option.some.inj same)
  have none : (x.toNat : Int) = 0 := isZero
  exact UInt64.toNat_inj.mp (by simpa using none)

theorem ofText_zero {content : Bytes} (h : membersOf content = .ok found) {timeout : String}
    (isTimeout : timeout ∈ timeouts) {zero : Number} (isZero : zero.IsZero)
    (isMember : (timeout, Json.number zero) ∈ found) :
    ∃ message, ofText path content = .error (.settings message) := by
  rw [ofText, parse_schema h]
  cases filled : Record.fillFromMembers slots [] default found with
  | error problem => exact ⟨_, rfl⟩
  | ok s =>
      have isName : timeout ∈ names := by
        simp only [timeouts, names, List.mem_cons] at isTimeout ⊢
        tauto
      obtain ⟨slot, asked⟩ := Record.exists_find? (names_eq_keys ▸ isName)
      have shows := Record.view_of_mem fits filled isMember (asked ▸ Option.some_ne_none slot)
      have none : s.connectMillis = 0 ∨ s.livenessMillis = 0 ∨ s.bulkMillis = 0 := by
        simp only [timeouts, List.mem_cons, List.not_mem_nil, or_false] at isTimeout
        rcases isTimeout with rfl | rfl | rfl
        · exact .inl (eq_zero_of_ofWord isZero shows)
        · exact .inr (.inl (eq_zero_of_ofWord isZero shows))
        · exact .inr (.inr (eq_zero_of_ofWord isZero shows))
      exact ⟨_, if_pos none⟩

/-! ### Written and loaded -/

theorem isReadBack_written (s : Settings) (depth : Nat) :
    ∀ member ∈ Record.written fields s, IsReadBack depth member.2 := by
  have word {α : Type} [Word α] (x : α) : IsReadBack depth (.ofWord x) :=
    isReadBack_number trivial
  have each : ∀ field ∈ fields, ∀ j, field.2 s = some j → IsReadBack depth j := by
    simp [fields, word, isReadBack_text]
  exact Record.forall_written each

theorem membersOf_written (s : Settings) :
    membersOf (Utf8.encode s.toJson.compact) = .ok (Record.written fields s) := by
  rw [encode_compact, toJson_eq]
  exact membersOf_rendered (isReadBack_written s _)

theorem isIn_written (s : Settings) : s.IsIn (Record.written fields s) where
  once name _ :=
    List.nodup_iff_count_le_one.mp ((Record.names_written s).nodup distinct_fields) name
  same member h _ := by
    rw [get?_toJson]
    exact (Record.asked_of_written keys_slots distinct_fields h).1

theorem load_of_isIn {s : Settings} (timeouts : s.HasTimeouts)
    (h : membersOf (Utf8.encode text) = .ok found) (isIn : s.IsIn found) :
    load path (.content (Utf8.encode text)) = (.ok (s.within found.names), notices path found) := by
  rw [load_text, unknownKeys_eq h, ofText, parse_schema h, isIn.fill]
  exact congrArg (·, _) (checkTimeouts_of_hasTimeouts (timeouts.within _))

/-- The settings in a file are loaded from it, whatever else is in it, but a timeout of
nothing never is.  What settings are written as is loaded as these settings. -/
theorem load_of_object (path : String) :
    (∀ text entries, parse (Utf8.encode text) = .ok (.object entries) →
      ∃ found, membersOf (Utf8.encode text) = .ok found ∧ entries = found.collect ∧
        (∀ s : Settings, s.HasTimeouts → s.IsIn found →
          load path (.content (Utf8.encode text)) =
            (.ok (s.within found.names), notices path found)) ∧
        ∀ timeout ∈ timeouts, ∀ zero : Number, zero.IsZero → (timeout, .number zero) ∈ found →
          ∃ message, (load path (.content (Utf8.encode text))).1 = .error (.settings message)) ∧
      ∀ s : Settings, s.HasTimeouts →
        load path (.content (Utf8.encode s.toJson.compact)) = (.ok s, []) := by
  refine ⟨fun text entries parsed => ?_, fun s timeouts => ?_⟩
  · obtain ⟨found, h, rfl⟩ := parse_eq_object.mp parsed
    refine ⟨found, h, rfl, fun s timeouts isIn => load_of_isIn timeouts h isIn, ?_⟩
    intro timeout isTimeout zero isZero isMember
    rw [load_text]
    exact ofText_zero h isTimeout isZero isMember
  · have all : (Record.written fields s).names = names := rfl
    have quiet : notices path (Record.written fields s) = [] := rfl
    rw [load_of_isIn timeouts (membersOf_written s) (isIn_written s), all, within_all, quiet]

def partialFile : Members := [
  ("bulkTimeoutMs", .ofWord (9000 : UInt64)), ("color", .text "red"), ("host", .text "mux"),
  ("color", .null)]

def patientMux : Settings := { default with host := "mux", bulkMillis := 9000 }

theorem isIn_partialFile : patientMux.IsIn partialFile where
  once := by decide
  same := by
    simp only [partialFile, List.forall_mem_cons]
    exact ⟨fun _ => rfl, fun known => absurd known (by decide), fun _ => rfl,
      fun known => absurd known (by decide), List.forall_mem_nil _⟩

theorem load_partialFile :
    load "mux.json" (.content (Utf8.encode (Json.object partialFile).compact)) =
      (.ok patientMux, [.unknownSetting "mux.json" "color"]) := by
  have each : ∀ member ∈ partialFile, IsReadBack (greatestDepth - 1) member.2 := by
    simp only [partialFile, List.forall_mem_cons]
    exact ⟨isReadBack_number trivial, isReadBack_text _, isReadBack_text _,
      gives_of_denotes .null, List.forall_mem_nil _⟩
  have members : membersOf (Utf8.encode (Json.object partialFile).compact) = .ok partialFile := by
    rw [encode_compact]
    exact membersOf_rendered each
  obtain ⟨found, read, -, loads, -⟩ :=
    (load_of_object "mux.json").1 _ _ (parse_eq_object.mpr ⟨_, members, rfl⟩)
  obtain rfl := Except.ok.inj (members.symm.trans read)
  have settings : patientMux.within partialFile.names = patientMux := by decide
  have noted : notices "mux.json" partialFile = [.unknownSetting "mux.json" "color"] := rfl
  rw [loads patientMux ⟨by decide, by decide, by decide⟩ isIn_partialFile, settings, noted]

end Settings

end MuxConsole
