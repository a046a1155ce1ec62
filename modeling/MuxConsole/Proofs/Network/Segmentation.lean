import Mathlib.Data.List.Basic
import Mathlib.Data.List.TakeWhile
import MuxConsole.Network.Stream
import MuxConsole.Proofs.Network.Intake
import MuxConsole.Proofs.Text.Validity

/-!
# What a stream reply comes to

All that counts of a stream reply that comes in time is its bytes.  Those up to
the first newline are the welcome line, with the newline itself; they have to be
the encoding of a text.  Those after it are taken as they are.
-/

namespace MuxConsole.Network

/-- The bytes up to and including the first newline, or all of them. -/
def welcomeOf (bytes : Bytes) : Bytes := bytes.take (bytes.idxOf Ascii.newline + 1)

def bodyOf (bytes : Bytes) : Bytes := bytes.drop (bytes.idxOf Ascii.newline + 1)

def Trimmed (text kept : List Char) : Prop :=
  ∃ blanks, text = kept ++ blanks ∧ (∀ c ∈ blanks, Text.isBlank c = true) ∧
    ∀ c ∈ kept.getLast?, Text.isBlank c = false

/-- What is received when these bytes come before the end. -/
structure ReceivedAs (endpoint : Endpoint) (bytes : Bytes) (result : Receiving) : Prop where
  silent : bytes = [] → result =
    .failed (.transport s!"{endpoint.display} closed the connection without a welcome line")
  valid (text : String) : bytes ≠ [] → welcomeOf bytes = Utf8.encode text →
    ∃ kept, Trimmed text.toList kept ∧
      result = .frames (Utf8.encodeChars kept ::
        if bodyOf bytes = [] then [] else [bodyOf bytes])
  invalid : bytes ≠ [] → (∀ text, welcomeOf bytes ≠ Utf8.encode text) →
    ∃ fault, Utf8.decode (welcomeOf bytes) = .error fault ∧
      result = .failed (.io fault.message)

/-! ## The welcome line -/

theorem trimmed_trimEnd (text : List Char) : Trimmed text (Text.trimEnd text) := by
  refine ⟨(text.reverse.takeWhile Text.isBlank).reverse, ?_, fun c hc => ?_, fun c hc => ?_⟩
  · rw [Text.trimEnd, ← List.reverse_append, List.takeWhile_append_dropWhile,
      List.reverse_reverse]
  · exact List.mem_takeWhile_imp (List.mem_reverse.mp hc)
  · rw [Text.trimEnd, List.getLast?_reverse, Option.mem_def] at hc
    have := List.head?_dropWhile_not Text.isBlank text.reverse
    rw [hc] at this
    exact this

namespace Intake

theorem splitLine_eq (bytes : Bytes) :
    splitLine bytes =
      if Ascii.newline ∈ bytes then some (welcomeOf bytes, bodyOf bytes) else none := by
  induction bytes with
  | nil => rfl
  | cons b rest ih =>
      by_cases here : b = Ascii.newline
      · simp [splitLine, welcomeOf, bodyOf, here]
      · have further : (b :: rest).idxOf Ascii.newline = rest.idxOf Ascii.newline + 1 :=
          List.idxOf_cons_ne rest here
        rw [splitLine, if_neg here, ih]
        by_cases more : Ascii.newline ∈ rest
        · simp [more, welcomeOf, bodyOf, further]
        · simp [more, Ne.symm here]

theorem welcomeOf_eq_self {bytes : Bytes} (h : Ascii.newline ∉ bytes) :
    welcomeOf bytes = bytes := by
  rw [welcomeOf, List.idxOf_of_notMem h, List.take_of_length_le (Nat.le_succ _)]

theorem bodyOf_eq_nil {bytes : Bytes} (h : Ascii.newline ∉ bytes) : bodyOf bytes = [] := by
  rw [bodyOf, List.idxOf_of_notMem h, List.drop_of_length_le (Nat.le_succ _)]

theorem feed_finish (endpoint : Endpoint) {bytes : Bytes} (h : bytes ≠ []) :
    (feed bytes .start >>= finish endpoint) =
      (decodeLine (welcomeOf bytes)).map fun line => frames line (bodyOf bytes) := by
  rw [start, feed, splitLine_eq]
  by_cases ended : Ascii.newline ∈ bytes
  · rw [if_pos ended]
    change ((decodeLine (welcomeOf bytes) >>= fun line => pure (.answer line (bodyOf bytes))) >>=
      finish endpoint) = _
    cases hline : decodeLine (welcomeOf bytes) with
    | error fault => rfl
    | ok line => exact finish_answer endpoint line (bodyOf bytes)
  · rw [if_neg ended, List.nil_append, welcomeOf_eq_self ended, bodyOf_eq_nil ended]
    cases bytes with
    | nil => exact absurd rfl h
    | cons b rest =>
        change (decodeLine (b :: rest) >>= fun line => pure [welcomeFrame line]) = _
        cases decodeLine (b :: rest) <;> rfl

theorem receivedAs (endpoint : Endpoint) (bytes : Bytes) :
    ReceivedAs endpoint bytes (toReceiving (feed bytes .start >>= finish endpoint)) where
  silent := by
    rintro rfl
    rfl
  valid text nonempty hwelcome := by
    refine ⟨Text.trimEnd text.toList, trimmed_trimEnd text.toList, ?_⟩
    rw [feed_finish endpoint nonempty, decodeLine, Utf8.decode_eq_ok_iff.mpr hwelcome]
    change Receiving.frames (frames text (bodyOf bytes)) = _
    rw [frames]
    split <;> rfl
  invalid nonempty unread := by
    rw [feed_finish endpoint nonempty, decodeLine]
    cases hline : Utf8.decode (welcomeOf bytes) with
    | error fault => exact ⟨fault, rfl, rfl⟩
    | ok text => exact absurd (Utf8.decode_eq_ok_iff.mp hline) (unread text)

end Intake

/-! ## Replies -/

/-- Whatever the bytes of a reply, one result is received of them on every connection,
however they are cut and whenever they come, as long as the end comes in time. -/
theorem one_result_however_cut (endpoint : Endpoint) (bytes : Bytes) :
    ∃ result, ReceivedAs endpoint bytes result ∧
      ∀ (link : StreamLink) (net : Network) (place limit after : Nat) (item : StreamItem),
        link.endpoint = endpoint → link.connection = some place →
        link.item? place net = some item → Segment.joined item.segments = bytes →
        item.ends = some after → Segment.duration item.segments + after ≤ limit →
        link.receive limit net = (result, { link with connection := none }, net) := by
  refine ⟨_, Intake.receivedAs endpoint bytes, ?_⟩
  rintro link net place limit after item rfl hconnection hitem rfl hends inTime
  simp only [StreamLink.receive, hconnection, hitem, Option.getD_some, hends,
    Intake.receive_of_inTime link.endpoint .start item.segments inTime]

/-- A connection on which the welcome line comes cut inside a character, and its end
together with an answer that is no text. -/
def cutInsideCharacter : StreamItem :=
  ⟨[⟨1, [0xC3]⟩, ⟨2, [0xA9, 0x20]⟩, ⟨3, [Ascii.newline, 0xFF]⟩], some 4, false⟩

theorem one_result_cut_inside_character :
    ReceivedAs (.legacy loopback) [0xC3, 0xA9, 0x20, Ascii.newline, 0xFF]
      (.frames [[0xC3, 0xA9], [0xFF]]) := by
  obtain ⟨result, receivedAs, received⟩ :=
    one_result_however_cut (.legacy loopback) [0xC3, 0xA9, 0x20, Ascii.newline, 0xFF]
  have hreceive := received ⟨.legacy loopback, 1000, some 0⟩
    ⟨true, [(12720, .stream ⟨[], [], true, [⟨cutInsideCharacter, []⟩]⟩)]⟩ 0 10 4
    cutInsideCharacter rfl rfl rfl rfl rfl (by decide)
  have hresult : Receiving.frames [[0xC3, 0xA9], [0xFF]] = result :=
    congrArg Prod.fst hreceive
  rw [hresult]
  exact receivedAs

end MuxConsole.Network
