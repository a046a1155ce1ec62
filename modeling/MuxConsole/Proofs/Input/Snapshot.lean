import MuxConsole.Input.Snapshot
import MuxConsole.Proofs.Input.Stat
import MuxConsole.Proofs.Json.Records
import MuxConsole.Proofs.KeyTable

/-!
# Replies are read input by input

The text of a reply is read as a table of its inputs.  The inputs of the table are read
in its order, up to the first that cannot be; the state that an input reports is decoded
by itself and leaves a note if it cannot be.
-/

namespace MuxConsole.Input

open Json

/-- What a report is taken to mean. -/
def meaning (report : String) : Option State :=
  if report = unknownText then none else State.decode? report

def notes (ident report : String) : Log :=
  if report ≠ unknownText ∧ State.decode? report = none then [.unreadableState report ident] else []

namespace Stat

theorem state_of_read {j : Json} {stat : Stat} (read : schema.fromJson j = .ok stat) :
    stat.state = none :=
  Record.invariant (P := fun stat => stat.state = none)
    (fun slot isSlot _ _ stat read same => ((fits slot isSlot).keeps read stat).trans same) rfl read

end Stat

namespace Snapshot

/-! ## One input -/

theorem state_of_entry {entry : Json} {sent : Stat} (read : entrySchema.fromJson entry = .ok sent) :
    sent.state = none := by
  refine Record.invariant (P := fun stat => stat.state = none) ?_ rfl read
  intro slot isSlot j set stat filled _
  obtain rfl := List.mem_singleton.mp isSlot
  obtain ⟨sent, readStat, rfl⟩ := exists_of_map_ok filled
  exact Stat.state_of_read readStat

theorem decodeState_eq (ident : String) {sent : Stat} (undecoded : sent.state = none) :
    decodeState ident sent =
      ({ sent with state := meaning sent.report }, notes ident sent.report) := by
  cases sent with
  | _ _ _ _ _ _ _ _ _ report state =>
      obtain rfl : state = none := undecoded
      simp only [decodeState, meaning, notes]
      by_cases unknown : report = unknownText
      · simp [unknown]
      · cases decoded : State.decode? report <;> simp [unknown]

def readOne (entry : String × Json) : Except Fault (String × Stat) × Log :=
  match entrySchema.fromJson entry.2 with
  | .error problem => (.error (.malformed "values" (.input entry.1 problem)), [])
  | .ok sent =>
      (.ok (entry.1, { sent with state := meaning sent.report }), notes entry.1 sent.report)

theorem exists_sent {entry : String × Json} {listed : String × Stat}
    (h : (readOne entry).1 = .ok listed) :
    ∃ sent, entrySchema.fromJson entry.2 = .ok sent ∧
      listed = (entry.1, { sent with state := meaning sent.report }) ∧
      (readOne entry).2 = notes entry.1 sent.report := by
  unfold readOne at h ⊢
  split at h
  · cases h
  · rename_i sent read
    exact ⟨sent, read, (Except.ok.inj h).symm, rfl⟩

theorem readOne_ident {entry : String × Json} {listed : String × Stat}
    (h : (readOne entry).1 = .ok listed) : listed.1 = entry.1 := by
  obtain ⟨sent, -, rfl, -⟩ := exists_sent h
  rfl

theorem readOne_log {entry : String × Json} {fault : Fault} (h : (readOne entry).1 = .error fault) :
    (readOne entry).2 = [] := by
  unfold readOne at h ⊢
  split at h
  · rfl
  · cases h

/-! ## One input after the other -/

theorem readEntries_ok {entry : String × Json} {listed : String × Stat}
    (h : (readOne entry).1 = .ok listed) (rest : Members) :
    readEntries (entry :: rest) =
      ((readEntries rest).1.map (listed :: ·), (readOne entry).2 ++ (readEntries rest).2) := by
  cases read : entrySchema.fromJson entry.2 with
  | error problem =>
      simp only [readOne, read] at h
      cases h
  | ok sent =>
      simp only [readOne, read] at h ⊢
      cases h
      simp only [readEntries, read, decodeState_eq entry.1 (state_of_entry read)]

theorem readEntries_error {entry : String × Json} {fault : Fault}
    (h : (readOne entry).1 = .error fault) (rest : Members) :
    readEntries (entry :: rest) = (.error fault, []) := by
  cases read : entrySchema.fromJson entry.2 with
  | error problem =>
      simp only [readOne, read] at h
      cases h
      simp only [readEntries, read]
  | ok sent =>
      simp only [readOne, read] at h
      cases h

/-- How far the reading of the inputs comes. -/
inductive Course (entries : Members) : Except Fault (List (String × Stat)) × Log → Prop
  | all {stats : List (String × Stat)}
      (each : List.Forall₂ (fun entry listed => (readOne entry).1 = .ok listed) entries stats) :
      Course entries (.ok stats, entries.flatMap fun entry => (readOne entry).2)
  | stops {before after : Members} {entry : String × Json} {fault : Fault}
      (split : entries = before ++ entry :: after)
      (each : ∀ earlier ∈ before, ∃ listed, (readOne earlier).1 = .ok listed)
      (fails : (readOne entry).1 = .error fault) :
      Course entries (.error fault, before.flatMap fun entry => (readOne entry).2)

theorem course_readEntries (entries : Members) : Course entries (readEntries entries) := by
  induction entries with
  | nil => exact .all .nil
  | cons entry entries ih =>
      cases first : (readOne entry).1 with
      | error fault =>
          rw [readEntries_error first]
          exact .stops (List.nil_append _).symm (List.forall_mem_nil _) first
      | ok listed =>
          rw [readEntries_ok first]
          generalize readEntries entries = others at ih
          cases ih with
          | all each => exact .all (.cons first each)
          | @stops before after failing _ split each fails =>
              have splitNext : entry :: entries = (entry :: before) ++ failing :: after := by
                rw [split, List.cons_append]
              exact .stops splitNext (List.forall_mem_cons.mpr ⟨⟨listed, first⟩, each⟩)
                fails

theorem readEntries_all {entries : Members} {stats : List (String × Stat)}
    (each : List.Forall₂ (fun entry listed => (readOne entry).1 = .ok listed) entries stats) :
    readEntries entries = (.ok stats, entries.flatMap fun entry => (readOne entry).2) := by
  induction each with
  | nil => rfl
  | cons first _ ih =>
      rw [readEntries_ok first, ih]
      rfl

theorem states_of_read {entries : Members} {stats : List (String × Stat)}
    (each : List.Forall₂ (fun entry listed => (readOne entry).1 = .ok listed) entries stats) :
    (∀ listed ∈ stats, listed.2.state = meaning listed.2.report) ∧
      (entries.flatMap fun entry => (readOne entry).2) =
        stats.flatMap fun listed => notes listed.1 listed.2.report := by
  induction each with
  | nil => exact ⟨List.forall_mem_nil _, rfl⟩
  | cons first _ ih =>
      obtain ⟨sent, -, rfl, noted⟩ := exists_sent first
      exact ⟨List.forall_mem_cons.mpr ⟨rfl, ih.1⟩, by
        rw [List.flatMap_cons, List.flatMap_cons, noted, ih.2]⟩

theorem exists_listed {entries : Members} {stats : List (String × Stat)}
    (each : List.Forall₂ (fun entry listed => (readOne entry).1 = .ok listed) entries stats)
    {entry : String × Json} (h : entry ∈ entries) :
    ∃ listed ∈ stats, (readOne entry).1 = .ok listed := by
  induction each with
  | nil => cases h
  | cons first _ ih =>
      rcases List.mem_cons.mp h with rfl | later
      · exact ⟨_, List.mem_cons_self, first⟩
      · obtain ⟨listed, isListed, read⟩ := ih later
        exact ⟨listed, List.mem_cons_of_mem _ isListed, read⟩

/-! ## Whole replies -/

section

variable {payload : Bytes} {values : KeyTable Json} (reply : replySchema.parse payload = .ok values)

include reply

theorem decode_of_reply : decode payload =
    ((readEntries values.entries).1.map KeyTable.ofList, (readEntries values.entries).2) := by
  rw [decode, Reply.record, reply]
  rfl

theorem decodes_iff : (∃ snapshot, (decode payload).1 = .ok snapshot) ↔
    ∀ entry ∈ values.entries, ∃ listed, (readOne entry).1 = .ok listed := by
  rw [decode_of_reply reply]
  have course := course_readEntries values.entries
  generalize readEntries values.entries = read at course
  cases course with
  | all each =>
      refine ⟨fun _ entry isEntry => ?_, fun _ => ⟨_, rfl⟩⟩
      obtain ⟨listed, -, read⟩ := exists_listed each isEntry
      exact ⟨listed, read⟩
  | @stops before after entry fault split each fails =>
      refine ⟨nofun, fun each => ?_⟩
      have isEntry : entry ∈ values.entries := by
        rw [split]
        exact List.mem_append_right _ List.mem_cons_self
      obtain ⟨listed, read⟩ := each entry isEntry
      rw [fails] at read
      cases read

theorem fault_of_decode {fault : Fault} (refused : (decode payload).1 = .error fault) :
    ∃ before entry after, values.entries = before ++ entry :: after ∧
      (∀ earlier ∈ before, ∃ listed, (readOne earlier).1 = .ok listed) ∧
      (readOne entry).1 = .error fault := by
  rw [decode_of_reply reply] at refused
  have course := course_readEntries values.entries
  generalize readEntries values.entries = read at course refused
  cases course with
  | all => cases refused
  | stops split each fails =>
      cases refused
      exact ⟨_, _, _, split, each, fails⟩

theorem log_of_decode : ∃ decoded left, values.entries = decoded ++ left ∧
    (∀ entry ∈ decoded, ∃ listed, (readOne entry).1 = .ok listed) ∧
    (∀ entry ∈ left.head?, ∃ fault, (readOne entry).1 = .error fault) ∧
    (decode payload).2 = decoded.flatMap fun entry => (readOne entry).2 := by
  rw [decode_of_reply reply]
  have course := course_readEntries values.entries
  generalize readEntries values.entries = read at course
  cases course with
  | all each =>
      refine ⟨values.entries, [], (List.append_nil _).symm, fun entry isEntry => ?_, nofun, rfl⟩
      obtain ⟨listed, -, read⟩ := exists_listed each isEntry
      exact ⟨listed, read⟩
  | @stops before after entry fault split each fails =>
      refine ⟨before, entry :: after, split, each, ?_, rfl⟩
      rintro _ ⟨⟩
      exact ⟨fault, fails⟩

theorem entries_of_decode {snapshot : Snapshot} (decoded : (decode payload).1 = .ok snapshot) :
    List.Forall₂ (fun entry listed => (readOne entry).1 = .ok listed)
        values.entries snapshot.entries ∧
      (decode payload).2 = values.entries.flatMap fun entry => (readOne entry).2 := by
  rw [decode_of_reply reply] at decoded ⊢
  have course := course_readEntries values.entries
  generalize readEntries values.entries = read at course decoded ⊢
  cases course with
  | @all stats each =>
      have names : stats.map (·.1) = values.entries.map (·.1) := by
        rw [← List.forall₂_eq_eq_eq, List.forall₂_map_left_iff, List.forall₂_map_right_iff]
        exact each.flip.imp fun listed entry h => readOne_ident h
      cases decoded
      rw [KeyTable.ofList_of_sorted (KeyTable.sorted_of_keys names values.sorted)]
      exact ⟨each, rfl⟩
  | stops => cases decoded

end

/-! ## The text of a reply -/

section

variable {depth : Nat} {blanks : Bytes} {κ β : Type} {key : Spaced κ} {part : Spaced β}
  {result : Except Problem (KeyTable Json)}

theorem gives_reply (spells : Spells key.text (.ok "values"))
    (gives : Gives ((Schema.table .json).fromText depth) part.text result)
    (blank : IsBlank blanks) :
    Gives (replySchema.fromText (depth + 1))
      (Ascii.openBrace :: (blanks ++ enclosed Ascii.closeBrace [assigned key part])) result := by
  have fills : ∀ member ∈ [(key, part)], Record.Fills member.1 member.2
      [.needs "values" (.table .json) fun values _ => values] depth (.ok "values")
      fun _ => result.map fun values _ => values := by
    refine List.forall_mem_singleton.mpr ⟨spells, ?_, fun absent => nomatch absent _ rfl⟩
    exact List.forall_mem_singleton.mpr fun _ => Schema.gives_map gives fun values _ => values
  have read : Gives (replySchema.fromText (depth + 1)) _ _ :=
    Schema.gives_record_object Prod.fst Prod.snd fills blank
  cases result <;> exact read

end

end Snapshot

end MuxConsole.Input
