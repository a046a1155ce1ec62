import MuxConsole.Proofs.Input.Snapshot
import MuxConsole.Proofs.Json.Changed
import MuxConsole.Proofs.Json.Forms

/-!
# Replies of different releases are decoded alike

The statistics that came with later releases may be absent from the reply of an earlier
one.  Where they are, the reply is decoded as if they stood there, anywhere in their
object, as unknown or as null: to the same snapshot with the same notes, or with the same
complaint.
-/

namespace MuxConsole.Input

open Json

namespace Stat

/-- What the members that came with later releases read as where they are absent. -/
def defaults : Members := [
  ("state", .text "unknown"),
  ("version", .text "unknown"),
  ("uptime", .text "unknown"),
  ("peak_left_slow", .null),
  ("peak_right_slow", .null),
  ("last_tist_offset", .null)]

/-- Members of an object without these names, and the same with some of these names
inserted, wherever it may be. -/
inductive Completes (names : List String) : List WrittenMember → List WrittenMember → Prop
  | nil : Completes names [] []
  | kept {member : WrittenMember} {older newer : List WrittenMember}
      (absent : ∀ name ∈ names, spelled member.key.text ≠ .ok name)
      (rest : Completes names older newer) : Completes names (member :: older) (member :: newer)
  | inserted {member : WrittenMember} {older newer : List WrittenMember} {name : String} {j : Json}
      (isNamed : name ∈ names) (isDefault : (name, j) ∈ defaults)
      (spells : spelled member.key.text = .ok name) (reads : parse member.value.text = .ok j)
      (rest : Completes names older newer) : Completes names older (member :: newer)

inductive Completed : Bytes → Bytes → Prop
  | object {older newer : WrittenObject} {names : List String} (known : names ⊆ defaults.names)
      (completes : Completes names older.members newer.members) : Completed older.text newer.text

def LeavesOut (names : List String) (older newer : Members) : Prop :=
  older = newer.filter (fun member => !names.contains member.1) ∧
    ∀ member ∈ newer, names.contains member.1 = true → member ∈ defaults

theorem outcome_of_default {member : WrittenMember} {name : String} {j : Json}
    (isDefault : (name, j) ∈ defaults) (reads : parse member.value.text = .ok j) (depth : Nat) :
    outcome (value depth) member.value.text = .ok j := by
  have scalar : ∀ entry ∈ defaults,
      (∀ items, entry.2 ≠ .list items) ∧ ∀ members, entry.2 ≠ .object members := by
    simp [defaults]
  obtain ⟨noList, noObject⟩ := scalar _ isDefault
  exact member.isJson.outcome_of_parse reads noList noObject depth

theorem Completes.agree {names : List String} {older newer : List WrittenMember}
    (completes : Completes names older newer) (depth : Nat) :
    Agree (LeavesOut names) (older.mapM (WrittenMember.read depth))
      (newer.mapM (WrittenMember.read depth)) := by
  induction completes with
  | nil => exact .ok ⟨rfl, List.forall_mem_nil _⟩
  | @kept member older newer absent _ ih =>
      rw [List.mapM_cons, List.mapM_cons, WrittenMember.read]
      cases named : spelled member.key.text with
      | error problem => exact .error problem
      | ok name =>
          have plain : name ∉ names := fun isName => absent name isName named
          cases outcome (value depth) member.value.text with
          | error problem => exact .error problem
          | ok j =>
              refine ih.bind fun rest more left => .ok ⟨?_, ?_⟩
              · rw [List.filter_cons_of_pos (by simp [plain]), ← left.1]
              · exact List.forall_mem_cons.mpr ⟨by simp [plain], left.2⟩
  | @inserted member older newer name j isNamed isDefault spells reads _ ih =>
      rw [List.mapM_cons, WrittenMember.read, spells, outcome_of_default isDefault reads]
      generalize older.mapM (WrittenMember.read depth) = read,
        newer.mapM (WrittenMember.read depth) = others at ih ⊢
      cases ih with
      | error problem => exact .error problem
      | ok left =>
          refine .ok ⟨?_, List.forall_mem_cons.mpr ⟨fun _ => isDefault, left.2⟩⟩
          rw [List.filter_cons_of_neg (by simp [isNamed]), ← left.1]

/-- The members that came later change nothing where they say what is read without them. -/
theorem idle_of_default : ∀ member ∈ defaults,
    Record.Idle (Record.view fields) slots start member := by
  simp only [defaults, List.forall_mem_cons]
  refine ⟨⟨⟨_, _, rfl, rfl⟩, rfl⟩, ⟨⟨_, _, rfl, rfl⟩, rfl⟩, ⟨⟨_, _, rfl, rfl⟩, rfl⟩,
    ⟨⟨_, _, rfl, rfl⟩, rfl⟩, ⟨⟨_, _, rfl, rfl⟩, rfl⟩, ⟨⟨_, _, rfl, rfl⟩, rfl⟩,
    List.forall_mem_nil _⟩

theorem needed_apart : ∀ slot ∈ slots, slot.needed = true → slot.key ∉ defaults.names := by
  simp [slots, Slot.needs, Slot.allows, defaults, Members.names]

theorem fromJson_of_leavesOut {names : List String} (known : names ⊆ defaults.names)
    {older newer : Members} (left : LeavesOut names older newer) :
    schema.fromJson (.object older.collect) = schema.fromJson (.object newer.collect) := by
  have spare : ∀ slot ∈ slots, slot.needed = true → names.contains slot.key = false := by
    intro slot isSlot needed
    simpa using fun isName => needed_apart slot isSlot needed (known isName)
  have idle : ∀ member ∈ newer.collect, names.contains member.1 = true →
      Record.Idle (Record.view fields) slots start member :=
    fun member h asked => idle_of_default member (left.2 member (Members.mem_collect h) asked)
  have filtered := Record.fillFromMembers_filter fits (fun _ _ => ext_view) spare idle
    (Members.nodup_collect newer) (List.forall_mem_nil _) (fun _ _ => Iff.rfl) fun _ _ => rfl
  rw [Members.filter_collect fun name => !names.contains name, ← left.1] at filtered
  exact filtered.symm

theorem Completed.alike {older newer : Bytes} (completed : Completed older newer) (depth : Nat) :
    Alike (value (depth + 1)) (fun j k => schema.fromJson j = schema.fromJson k) older newer := by
  obtain ⟨known, completes⟩ := completed
  exact .of_gives (WrittenObject.gives_value _ depth) (WrittenObject.gives_value _ depth)
    ((completes.agree depth).map fun _ _ left => fromJson_of_leavesOut known left)

end Stat

namespace Snapshot

/-- Inputs with the same statistics, or the same complaint about them. -/
abbrev SameStat (j k : Json) : Prop := entrySchema.fromJson j = entrySchema.fromJson k

theorem readEntries_congr {older newer : Members}
    (each : List.Forall₂ (SameName SameStat) older newer) :
    readEntries older = readEntries newer := by
  induction each with
  | nil => rfl
  | @cons entry other _ _ first _ ih =>
      obtain ⟨ident, j⟩ := entry
      obtain ⟨_, k⟩ := other
      obtain ⟨rfl, same⟩ := first
      rw [readEntries, readEntries, same, ih]

abbrev statSlot : Slot Stat := .needs "inputstat" Stat.schema fun stat _ => stat

abbrev valuesSlot : Slot (KeyTable Json) := .needs "values" (.table .json) fun values _ => values

theorem alike_entry {older newer : Bytes}
    (completed : InField "inputstat" Stat.Completed older newer) :
    Alike (value 125) SameStat older newer := by
  refine InField.alike_value statSlot (fun text other h => ?_) completed
  exact (h.alike 123).imp fun j k same => congrArg (Except.map fun stat _ => stat) same

theorem alike_table {older newer : Bytes}
    (completed : InTable (InField "inputstat" Stat.Completed) older newer) :
    Alike ((Schema.table .json).fromText 126) (SameTable SameStat) older newer :=
  InTable.alike (fun _ => rfl) (fun _ _ => alike_entry) completed

theorem alike_reply {older newer : Bytes}
    (completed : InField "values" (InTable (InField "inputstat" Stat.Completed)) older newer) :
    Alike (replySchema.fromText 127) (SameTable SameStat) older newer := by
  have refl (table : KeyTable Json) : SameTable SameStat table table :=
    List.forall₂_same.mpr fun _ _ => ⟨rfl, rfl⟩
  have slot {text other : Bytes}
      (alike : Alike ((Schema.table .json).fromText 126) (SameTable SameStat) text other) :
      Alike (valuesSlot.fill.fromText 126) (Record.Keeps (SameTable SameStat)) text other :=
    alike.map (f := fun values _ => values) (S := Record.Keeps (SameTable SameStat))
      fun _ _ same _ _ _ => same
  exact InField.alike valuesSlot (fun text isJson => slot (.refl refl (Schema.steady_table isJson)))
    (fun _ _ changed => slot (alike_table changed)) (refl _) completed

/-- Replies of different releases are decoded alike. -/
theorem completed_decoded_alike {older newer : Spaced Unit}
    (completed : InField "values" (InTable (InField "inputstat" Stat.Completed))
      older.text newer.text) : decode newer.bytes = decode older.bytes := by
  have agree : Agree (SameTable SameStat) (replySchema.parse older.bytes)
      (replySchema.parse newer.bytes) := (alike_reply completed).whole
  rw [decode, decode, Reply.record, Reply.record]
  generalize replySchema.parse older.bytes = read, replySchema.parse newer.bytes = others at agree
  cases agree with
  | error problem => rfl
  | ok same => simp only [Except.mapError, readEntries_congr same]

/-! ## An early and a late reply -/

def renderedWritten (name : String) (j : Json) (h : IsJson (rendered j)) : WrittenMember where
  key := .tight (Utf8.encodeChars (renderText name)) ()
  value := .tight (rendered j) ()
  quoted := (denotesText_renderText name).isQuoted
  isJson := h

theorem spelled_renderText (name : String) :
    spelled (Utf8.encodeChars (renderText name)) = .ok name :=
  (spells_of_denotes (denotesText_renderText name)).spelled_eq

def zeroMember (name : String) : WrittenMember :=
  renderedWritten name (ofWord (0 : Int32)) (isJson_rendered (.number _ : Nested 0 _) (.number _))

def counters : List WrittenMember :=
  ["min_fill", "max_fill", "peak_left", "peak_right", "num_underruns", "num_overruns"].map
    zeroMember

def earlyStat : WrittenObject where
  blanks := []
  members := counters
  blank := isBlank_nil

def lateStat : WrittenObject where
  blanks := []
  members :=
    renderedWritten "state" (.text "unknown") (isJson_rendered (.text _ : Nested 0 _) (.text _)) ::
      (counters ++
        [renderedWritten "peak_left_slow" .null (isJson_rendered (.null : Nested 0 _) .null)])
  blank := isBlank_nil

theorem completes_counters {newer : List WrittenMember}
    (rest : Stat.Completes ["state", "peak_left_slow"] [] newer) :
    Stat.Completes ["state", "peak_left_slow"] counters (counters ++ newer) := by
  have kept {name : String} {older newer : List WrittenMember}
      (absent : name ∉ ["state", "peak_left_slow"])
      (rest : Stat.Completes ["state", "peak_left_slow"] older newer) :
      Stat.Completes ["state", "peak_left_slow"] (zeroMember name :: older)
        (zeroMember name :: newer) := by
    refine .kept (fun other isOther spells => ?_) rest
    obtain rfl := Except.ok.inj ((spelled_renderText name).symm.trans spells)
    exact absent isOther
  exact kept (by decide) <| kept (by decide) <| kept (by decide) <| kept (by decide) <|
    kept (by decide) <| kept (by decide) rest

def holding (name : String) (object : WrittenObject) : WrittenObject where
  blanks := []
  members := [{
    key := .tight (Utf8.encodeChars (renderText name)) ()
    value := .tight object.text ()
    quoted := (denotesText_renderText name).isQuoted
    isJson := object.isJson }]
  blank := isBlank_nil

theorem anew_holding {named : String → Prop} {R : Bytes → Bytes → Prop} {name : String}
    (isNamed : named name) {object other : WrittenObject} (changed : R object.text other.text) :
    List.Forall₂ (WrittenMember.Anew named R) (holding name object).members
      (holding name other).members :=
  .cons (.changed rfl (spelled_renderText name) isNamed changed) .nil

def replyWith (stat : WrittenObject) : Spaced Unit :=
  .tight (holding "values" (holding "a" (holding "inputstat" stat))).text ()

theorem early_reply_completed :
    InField "values" (InTable (InField "inputstat" Stat.Completed)) (replyWith earlyStat).text
        (replyWith lateStat).text ∧
      decode (replyWith lateStat).bytes = decode (replyWith earlyStat).bytes := by
  have completes : Stat.Completes ["state", "peak_left_slow"] earlyStat.members
      lateStat.members := by
    have unknown : parse (rendered (.text "unknown")) = .ok (.text "unknown") :=
      parse_of_isTextOf (isTextOf_rendered (.text _) (.text _))
    have null : parse (rendered .null) = .ok .null :=
      parse_of_isTextOf (isTextOf_rendered .null .null)
    refine .inserted (by decide) List.mem_cons_self (spelled_renderText "state") unknown ?_
    refine completes_counters ?_
    exact .inserted (by decide) (by simp [Stat.defaults]) (spelled_renderText "peak_left_slow")
      null .nil
  have stat : Stat.Completed earlyStat.text lateStat.text := .object (by decide) completes
  have input : InField "inputstat" Stat.Completed (holding "inputstat" earlyStat).text
      (holding "inputstat" lateStat).text := .object (anew_holding (by rfl) stat)
  have table : InTable (InField "inputstat" Stat.Completed)
      (holding "a" (holding "inputstat" earlyStat)).text
      (holding "a" (holding "inputstat" lateStat)).text := .object (anew_holding trivial input)
  have completed : InField "values" (InTable (InField "inputstat" Stat.Completed))
      (replyWith earlyStat).text (replyWith lateStat).text := .object (anew_holding (by rfl) table)
  exact ⟨completed, completed_decoded_alike completed⟩

end Snapshot

end MuxConsole.Input
