import MuxConsole.Input.Stat
import MuxConsole.Proofs.Json.Fields

/-!
# What the statistics of an input show

Each slot puts what it reads where the statistics are written with it.  So they are read
back from what they are written as, apart from the decoded state.
-/

namespace MuxConsole.Input

open Json

theorem Uptime.ofJson_whole {n : Int} {x : UInt64} (h : Word.ofInt? n = some x)
    (inRange : IsWord n) : ofJson (.number (.whole n inRange)) = .ok (.seconds x) := by
  simp only [ofJson, h]

theorem Uptime.fromJson_schema (j : Json) : schema.fromJson j = ofJson j := rfl

theorem Uptime.mirrors : Uptime.schema.Mirrors fun uptime => some uptime.toJson where
  shows {j uptime} h := by
    rw [Uptime.fromJson_schema] at h
    cases j with
    | number n =>
        cases n with
        | whole n inRange =>
            cases found : (Word.ofInt? n : Option UInt64) with
            | some x =>
                rw [Uptime.ofJson_whole found] at h
                cases h
                rw [eq_ofWord found, shown_ofWord, Uptime.toJson]
            | none =>
                simp only [Uptime.ofJson, found] at h
                cases h
        | double d => cases h
    | text s =>
        cases h
        rfl
    | _ => cases h
  reads {uptime j} h := by
    obtain rfl := Option.some.inj h
    cases uptime with
    | seconds n =>
        rw [Uptime.toJson, Uptime.fromJson_schema]
        exact Uptime.ofJson_whole (Word.ofInt?_toInt n) (Word.isWord n)
    | text s => rfl

namespace Stat

def fields : List (String × (Stat → Option Json)) := [
  ("min_fill", fun stat => some (.ofWord stat.minFill)),
  ("max_fill", fun stat => some (.ofWord stat.maxFill)),
  ("peak_left", fun stat => some (.ofWord stat.peakLeft)),
  ("peak_right", fun stat => some (.ofWord stat.peakRight)),
  ("peak_left_slow", fun stat => stat.peakLeftSlow.map .ofWord),
  ("peak_right_slow", fun stat => stat.peakRightSlow.map .ofWord),
  ("num_underruns", fun stat => some (.ofWord stat.underruns)),
  ("num_overruns", fun stat => some (.ofWord stat.overruns)),
  ("state", fun stat => some (.text stat.report)),
  ("version", fun stat => some (.text stat.version)),
  ("uptime", fun stat => some stat.uptime.toJson),
  ("last_tist_offset", fun stat => stat.offset.map .number)]

theorem present_eq (name : String) (shows : Option Json) :
    present name shows = shows.toList.map (name, ·) := by
  cases shows <;> rfl

theorem toJson_eq (stat : Stat) : stat.toJson = .object (Record.written fields stat) := by
  simp [toJson, Record.written, fields, present_eq]

theorem fits : ∀ slot ∈ slots, Record.Fits (Record.view fields) state slot := by
  intro slot isSlot
  simp only [slots, List.mem_cons, List.not_mem_nil, or_false] at isSlot
  rcases isSlot with rfl | rfl | rfl | rfl | rfl | rfl | rfl | rfl | rfl | rfl | rfl | rfl
  all_goals
    apply Record.fits_of_mirrors
    case mirrors =>
      first
        | exact Schema.mirrors_word
        | exact Schema.mirrors_string
        | exact Uptime.mirrors
        | exact Schema.mirrors_optional Schema.mirrors_word
        | exact Schema.mirrors_optional Schema.mirrors_number
    case found => rfl
    case same => exact fun _ => rfl
    case own => exact fun _ _ => rfl
    case other => simp [fields]
    case keeps => exact fun _ _ => rfl

theorem distinct_fields : (fields.map (·.1)).Nodup := by decide

theorem forall_written {P : Json → Prop} {stat : Stat}
    (word : ∀ {α : Type} [Word α] (x : α), P (.ofWord x)) (text : ∀ s : String, P (.text s))
    (offset : ∀ n, stat.offset = some n → P (.number n)) :
    ∀ member ∈ Record.written fields stat, P member.2 := by
  have uptime : P stat.uptime.toJson := by
    cases stat.uptime with
    | seconds n => exact word n
    | text s => exact text s
  have each : ∀ field ∈ fields, ∀ j, field.2 stat = some j → P j := by
    simpa [fields, word, text, uptime] using offset
  exact Record.forall_written each

theorem ext_view {left right : Stat} (view : Record.view fields left = Record.view fields right)
    (sameState : left.state = right.state) : left = right := by
  have same := Record.fields_of_view distinct_fields view
  simp only [fields, List.forall_mem_cons, Option.some.injEq, Schema.mirrors_word.injective.eq_iff,
    Schema.mirrors_string.injective.eq_iff, Uptime.mirrors.injective.eq_iff,
    (Option.map_injective Schema.mirrors_word.injective).eq_iff,
    (Option.map_injective Schema.mirrors_number.injective).eq_iff] at same
  cases left
  cases right
  simp_all

theorem view_withState (stat : Stat) (state : Option State) :
    Record.view fields { stat with state } = Record.view fields stat :=
  Record.view_congr (by simp [fields])

theorem fromJson_toJson (stat : Stat) :
    schema.fromJson stat.toJson = .ok { stat with state := none } := by
  have complete : ∀ slot ∈ slots, slot.needed = true →
      Record.view fields stat slot.key ≠ none := by
    intro slot isSlot needed
    simp only [slots, List.mem_cons, List.not_mem_nil, or_false] at isSlot
    rcases isSlot with rfl | rfl | rfl | rfl | rfl | rfl | rfl | rfl | rfl | rfl | rfl | rfl <;>
      first
        | exact Option.some_ne_none _
        | cases needed
  have bare : ∀ field ∈ fields, field.2 stat = none → field.2 start = none := by
    simp [fields, start]
  obtain ⟨result, filled, view, sameState⟩ :=
    Record.exists_fill_written rfl distinct_fields fits complete bare
  have same : result = { stat with state := none } :=
    ext_view (view.trans (view_withState stat none).symm) sameState
  rw [toJson_eq]
  exact same ▸ filled

end Stat

end MuxConsole.Input
