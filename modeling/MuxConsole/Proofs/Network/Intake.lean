import MuxConsole.Network.Intake

/-!
# Stream replies do not depend on how they are cut

Taking in segment after segment comes to the same as taking in all their bytes
at once, as long as everything comes in time.  A reply with a welcome line of
valid text has that line for its first frame, and the answer for its second one
unless it is empty.
-/

namespace MuxConsole.Network

namespace Segment

def joined (segments : List Segment) : Bytes := segments.flatMap Segment.bytes

def duration : List Segment → Nat
  | [] => 0
  | segment :: rest => segment.after + duration rest

@[simp] theorem joined_cons (segment : Segment) (rest : List Segment) :
    joined (segment :: rest) = segment.bytes ++ joined rest := rfl

@[simp] theorem duration_cons (segment : Segment) (rest : List Segment) :
    duration (segment :: rest) = segment.after + duration rest := rfl

end Segment

namespace Intake

/-! ## Lines -/

theorem splitLine_eq_none {bytes : Bytes} (h : Ascii.newline ∉ bytes) :
    splitLine bytes = none := by
  induction bytes with
  | nil => rfl
  | cons b rest ih =>
      simp only [List.mem_cons, not_or] at h
      rw [splitLine, if_neg (Ne.symm h.1), ih h.2]
      rfl

theorem splitLine_append_of_none {left : Bytes} (right : Bytes) (h : splitLine left = none) :
    splitLine (left ++ right) =
      (splitLine right).map fun (line, rest) => (left ++ line, rest) := by
  induction left with
  | nil => simp
  | cons b left ih =>
      rw [splitLine] at h
      split at h
      · cases h
      · rename_i other
        rw [Option.map_eq_none_iff] at h
        rw [List.cons_append, splitLine, if_neg other, ih h, Option.map_map]
        rfl

theorem splitLine_append_of_some {left line rest : Bytes} (right : Bytes)
    (h : splitLine left = some (line, rest)) :
    splitLine (left ++ right) = some (line, rest ++ right) := by
  induction left generalizing line with
  | nil => cases h
  | cons b left ih =>
      rw [splitLine] at h
      rw [List.cons_append, splitLine]
      split at h
      · rename_i newline
        cases h
        rw [if_pos newline]
      · rename_i other
        obtain ⟨⟨line', rest'⟩, hleft, hline⟩ := Option.map_eq_some_iff.mp h
        cases hline
        rw [if_neg other, ih hleft]
        rfl

theorem splitLine_line {line : Bytes} (h : Ascii.newline ∉ line) (rest : Bytes) :
    splitLine (line ++ Ascii.newline :: rest) = some (line ++ [Ascii.newline], rest) := by
  rw [splitLine_append_of_none _ (splitLine_eq_none h)]
  simp [splitLine]

/-! ## Segments -/

theorem feed_nil (intake : Intake) : feed [] intake = .ok intake := by
  cases intake <;> simp [feed, splitLine]

theorem feed_append (left right : Bytes) (intake : Intake) :
    feed (left ++ right) intake = feed left intake >>= feed right := by
  cases intake with
  | answer line read => simp [feed, bind, Except.bind]
  | welcome read =>
      cases hleft : splitLine left with
      | none =>
          simp only [feed, hleft, splitLine_append_of_none right hleft, bind, Except.bind]
          cases splitLine right <;> simp
      | some split =>
          obtain ⟨line, rest⟩ := split
          simp only [feed, hleft, splitLine_append_of_some right hleft]
          cases decodeLine (read ++ line) <;> rfl

/-- What comes in time is taken in, however it is cut. -/
theorem receive_of_inTime (endpoint : Endpoint) {after limit : Nat} (intake : Intake)
    (segments : List Segment) (inTime : Segment.duration segments + after ≤ limit) :
    receive endpoint (some after) limit intake segments =
      toReceiving (feed (Segment.joined segments) intake >>= finish endpoint) := by
  induction segments generalizing limit intake with
  | nil =>
      have hend : after ≤ limit := by simpa [Segment.duration] using inTime
      rw [receive, if_pos hend, show Segment.joined [] = [] from rfl, feed_nil]
      rfl
  | cons segment rest ih =>
      rw [Segment.duration_cons] at inTime
      -- What is left of the limit still covers the segments that are left.
      rw [receive, if_pos (by omega), Segment.joined_cons, feed_append]
      cases hfeed : feed segment.bytes intake with
      | error fault => rfl
      | ok next => exact ih next (by omega)

def frames (line : String) (answer : Bytes) : Frames :=
  if answer = [] then [welcomeFrame line] else [welcomeFrame line, answer]

theorem finish_answer (endpoint : Endpoint) (line : String) (answer : Bytes) :
    finish endpoint (.answer line answer) = .ok (frames line answer) := by
  cases answer <;> simp [finish, frames]

theorem receive_frames (endpoint : Endpoint) {after limit : Nat} {segments : List Segment}
    {line answer : Bytes} {text : String} (oneLine : Ascii.newline ∉ line)
    (valid : Utf8.decode (line ++ [Ascii.newline]) = .ok text)
    (joined : Segment.joined segments = line ++ Ascii.newline :: answer)
    (inTime : Segment.duration segments + after ≤ limit) :
    receive endpoint (some after) limit .start segments = .frames (frames text answer) := by
  rw [receive_of_inTime endpoint .start segments inTime, joined]
  have hfeed : feed (line ++ Ascii.newline :: answer) .start = .ok (.answer text answer) := by
    simp only [start, feed, splitLine_line oneLine, List.nil_append, decodeLine, valid]
    rfl
  rw [hfeed]
  change toReceiving (finish endpoint (.answer text answer)) = _
  rw [finish_answer]
  rfl

end Intake

end MuxConsole.Network
