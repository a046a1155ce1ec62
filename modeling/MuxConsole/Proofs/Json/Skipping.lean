import Mathlib.Tactic.SplitIfs
import MuxConsole.Json.Skip
import MuxConsole.Proofs.Json.Shape
import MuxConsole.Proofs.Json.Steady

/-!
# What is read is passed over

Passing over a value takes fewer checks than reading it.  So what can be read can be passed
over, and both end in the same place.  The text lasts as a clock, however deep the value is:
every bracket takes a byte off it.
-/

namespace MuxConsole.Json

variable {input rest : Bytes}

/-! ## Texts -/

theorem hexUnit_ok {unit : Nat} (h : hexUnit input = .ok (unit, rest)) :
    ∃ digits, DenotesUnit digits unit ∧ input = digits ++ rest := by
  unfold hexUnit at h
  split at h
  · rename_i a b c d left
    split at h
    · rename_i w x y z ha hb hc hd
      cases h
      exact ⟨[a, b, c, d], ⟨w, x, y, z, by simp [ha, hb, hc, hd], rfl⟩, rfl⟩
    · cases h
  · cases h

theorem surrogateGoesOn_ok {byte : UInt8} (h : surrogateGoesOn byte input = .ok rest) :
    input = byte :: rest := by
  cases input with
  | nil => cases h
  | cons b more =>
      rw [surrogateGoesOn] at h
      split at h
      · rename_i same
        cases h
        rw [same]
      · cases h

theorem unicodeEscape_ok {c : Char} (h : unicodeEscape input = .ok (c, rest)) :
    ∃ glyphs : List Bytes, (∀ glyph ∈ glyphs, IsGlyph glyph) ∧
      Ascii.backslash :: Ascii.lowerU :: input = glyphs.flatten ++ rest := by
  obtain ⟨⟨unit, left⟩, read, next⟩ := exists_of_bind_ok h
  obtain ⟨digits, denotes, rfl⟩ := hexUnit_ok read
  have glyph := IsGlyph.unit denotes
  dsimp only at next
  split_ifs at next with trails leads
  · obtain ⟨_, first, next⟩ := exists_of_bind_ok next
    obtain ⟨_, second, next⟩ := exists_of_bind_ok next
    obtain ⟨⟨_, _⟩, readSecond, last⟩ := exists_of_bind_ok next
    obtain rfl := surrogateGoesOn_ok first
    obtain rfl := surrogateGoesOn_ok second
    obtain ⟨more, denotesSecond, rfl⟩ := hexUnit_ok readSecond
    have glyphSecond := IsGlyph.unit denotesSecond
    split_ifs at last
    obtain ⟨-, rfl⟩ := Prod.mk.inj (Except.ok.inj last)
    exact ⟨_, List.forall_mem_cons.mpr ⟨glyph, List.forall_mem_singleton.mpr glyphSecond⟩,
      by simp⟩
  · cases next
    exact ⟨_, List.forall_mem_singleton.mpr glyph, by simp⟩

theorem escapeBody_ok {c : Char} (h : escapeBody input = .ok (c, rest)) :
    ∃ glyphs : List Bytes, (∀ glyph ∈ glyphs, IsGlyph glyph) ∧
      Ascii.backslash :: input = glyphs.flatten ++ rest := by
  cases input with
  | nil => cases h
  | cons b more =>
      rw [escapeBody] at h
      split at h
      · rename_i letter
        cases h
        exact ⟨_, List.forall_mem_singleton.mpr (.letter letter), by simp⟩
      · split at h
        · rename_i isUnit
          rw [isUnit]
          exact unicodeEscape_ok h
        · cases h

theorem textBytes_ok {clock bytes : Bytes} (h : textBytes clock input = .ok (bytes, rest)) :
    ∃ glyphs : List Bytes, (∀ glyph ∈ glyphs, IsGlyph glyph) ∧
      input = glyphs.flatten ++ Ascii.quote :: rest := by
  induction clock generalizing input bytes with
  | nil => cases h
  | cons _ clock ih =>
      cases input with
      | nil => cases h
      | cons b more =>
          rw [textBytes] at h
          split at h
          · rename_i isQuote
            cases h
            exact ⟨[], List.forall_mem_nil _, by rw [isQuote]; rfl⟩
          split at h
          · rename_i isBackslash
            obtain ⟨⟨c, left⟩, escape, h⟩ := exists_of_bind_ok h
            obtain ⟨⟨bytes, _⟩, others, h⟩ := exists_of_bind_ok h
            cases h
            obtain ⟨glyphs, each, whole⟩ := escapeBody_ok escape
            obtain ⟨later, eachLater, rfl⟩ := ih others
            refine ⟨glyphs ++ later, List.forall_mem_append.mpr ⟨each, eachLater⟩, ?_⟩
            rw [isBackslash, whole, List.flatten_append, List.append_assoc]
          split at h
          · cases h
          · rename_i noQuote noBackslash noControl
            obtain ⟨⟨bytes, _⟩, others, h⟩ := exists_of_bind_ok h
            cases h
            obtain ⟨glyphs, each, rfl⟩ := ih others
            have plain : isPlainByte b = true := by
              simp only [isPlainByte, Bool.and_eq_true, decide_eq_true_eq]
              exact ⟨⟨noQuote, noBackslash⟩, UInt8.not_lt.mp noControl⟩
            exact ⟨[b] :: glyphs, List.forall_mem_cons.mpr ⟨.plain plain, each⟩, rfl⟩

theorem skipText_of_textBody {s : String} (h : textBody input = .ok (s, rest)) :
    skipText input input = .ok rest ∧ rest.length < input.length := by
  obtain ⟨⟨bytes, left⟩, read, h⟩ := exists_of_bind_ok h
  have same : left = rest := by
    dsimp only at h
    split at h <;> cases h
    rfl
  subst same
  obtain ⟨glyphs, each, rfl⟩ := textBytes_ok read
  refine ⟨skipText_glyphs each left ?_, ?_⟩ <;>
  · rw [List.length_append, List.length_cons]
    omega

/-! ## Numerals -/

section

variable {atEnd : Problem} (other : Problem)

theorem someDigits_ok {digits : Bytes} (h : someDigits atEnd input = .ok (digits, rest)) :
    someDigits other input = .ok (digits, rest) ∧ rest.length < input.length := by
  cases input with
  | nil => cases h
  | cons b more =>
      rw [someDigits] at h ⊢
      split at h
      · rename_i digit
        rw [if_pos digit]
        cases h
        exact ⟨rfl, Nat.lt_succ_of_le (List.dropWhile_suffix _).length_le⟩
      · cases h

theorem wholePart_ok {whole : Bytes} (h : wholePart atEnd input = .ok (whole, rest)) :
    wholePart other input = .ok (whole, rest) ∧ rest.length < input.length := by
  cases input with
  | nil => cases h
  | cons b more =>
      by_cases isZero : b = Ascii.zero
      · cases more with
        | nil =>
            simp only [wholePart, if_pos isZero] at h ⊢
            cases h
            exact ⟨rfl, Nat.one_pos⟩
        | cons next more =>
            simp only [wholePart, if_pos isZero] at h ⊢
            split_ifs at h ⊢
            cases h
            exact ⟨rfl, Nat.lt_succ_self _⟩
      · simp only [wholePart, if_neg isZero] at h ⊢
        exact someDigits_ok other h

theorem decimalPart_ok {digits : Bytes} (h : decimalPart atEnd input = .ok (digits, rest)) :
    decimalPart other input = .ok (digits, rest) ∧ rest.length ≤ input.length := by
  cases input with
  | nil =>
      cases h
      exact ⟨rfl, Nat.le_refl _⟩
  | cons b more =>
      rw [decimalPart] at h ⊢
      split at h
      · rename_i isDot
        rw [if_pos isDot]
        obtain ⟨read, shorter⟩ := someDigits_ok other h
        exact ⟨read, Nat.le_succ_of_le (Nat.le_of_lt shorter)⟩
      · rename_i noDot
        rw [if_neg noDot]
        cases h
        exact ⟨rfl, Nat.le_refl _⟩

theorem length_exponentSign (input : Bytes) : (exponentSign input).2.length ≤ input.length := by
  cases input with
  | nil => exact Nat.le_refl _
  | cons b more =>
      rw [exponentSign]
      split
      · exact Nat.le_succ _
      · split
        · exact Nat.le_succ _
        · exact Nat.le_refl _

theorem exponentPart_ok {part : Option (Bool × Bytes)}
    (h : exponentPart atEnd input = .ok (part, rest)) :
    exponentPart other input = .ok (part, rest) ∧ rest.length ≤ input.length := by
  cases input with
  | nil =>
      cases h
      exact ⟨rfl, Nat.le_refl _⟩
  | cons b more =>
      rw [exponentPart] at h ⊢
      split at h
      · rename_i letter
        rw [if_pos letter]
        have signed := length_exponentSign more
        generalize exponentSign more = parts at h signed ⊢
        obtain ⟨negative, left⟩ := parts
        obtain ⟨⟨digits, left⟩, read, h⟩ := exists_of_bind_ok h
        obtain ⟨readOther, shorter⟩ := someDigits_ok other read
        cases h
        refine ⟨by simp only [readOther, bind, Except.bind]; rfl, ?_⟩
        rw [List.length_cons]
        dsimp only at signed
        omega
      · rename_i noLetter
        rw [if_neg noLetter]
        cases h
        exact ⟨rfl, Nat.le_refl _⟩

theorem numeral_ok {n : Numeral} (h : numeral atEnd input = .ok (n, rest)) :
    numeral other input = .ok (n, rest) ∧ rest.length < input.length := by
  unfold numeral at h ⊢
  split at h
  rename_i negative digits signed
  have short : digits.length ≤ input.length := by
    cases input with
    | nil =>
        cases signed
        exact Nat.le_refl _
    | cons b more =>
        dsimp only at signed
        split at signed <;> cases signed
        · exact Nat.le_succ _
        · exact Nat.le_refl _
  obtain ⟨⟨whole, _⟩, readWhole, h⟩ := exists_of_bind_ok h
  obtain ⟨⟨decimals, _⟩, readDecimals, h⟩ := exists_of_bind_ok h
  obtain ⟨⟨part, _⟩, readExponent, h⟩ := exists_of_bind_ok h
  obtain ⟨whole, shortWhole⟩ := wholePart_ok other readWhole
  obtain ⟨decimals, shortDecimals⟩ := decimalPart_ok other readDecimals
  obtain ⟨exponent, shortExponent⟩ := exponentPart_ok other readExponent
  cases h
  refine ⟨by simp only [whole, decimals, exponent, bind, Except.bind]; rfl, ?_⟩
  omega

end

/-! ## Heads -/

def opening : Head → Opening
  | .list => .list
  | .object => .object
  | _ => .scalar

theorem length_skipBlanks (input : Bytes) : (skipBlanks input).length ≤ input.length :=
  (List.dropWhile_suffix _).length_le

theorem expectWord_ok {word : Bytes} (h : expectWord word input = .ok rest) :
    rest.length ≤ input.length := by
  induction word generalizing input with
  | nil =>
      cases h
      exact Nat.le_refl _
  | cons w word ih =>
      cases input with
      | nil => cases h
      | cons b more =>
          rw [expectWord] at h
          split at h
          · exact Nat.le_succ_of_le (ih h)
          · cases h

theorem skipWord_ok {word : Bytes} {found head : Head} (scalar : opening found = .scalar)
    (h : (expectWord word input).map (found, ·) = .ok (head, rest)) :
    (expectWord word input).map (Opening.scalar, ·) = .ok (opening head, rest) ∧
      rest.length ≤ input.length := by
  obtain ⟨left, read, same⟩ := exists_of_map_ok h
  cases same
  rw [read, scalar]
  exact ⟨rfl, expectWord_ok read⟩

theorem skipHead_of_scanHead {head : Head} (h : scanHead input = .ok (head, rest)) :
    skipHead input = .ok (opening head, rest) ∧ rest.length < input.length := by
  have short := length_skipBlanks input
  rw [scanHead] at h
  rw [skipHead]
  cases blanks : skipBlanks input with
  | nil =>
      rw [blanks] at h
      cases h
  | cons b more =>
      rw [blanks, List.length_cons] at short
      rw [blanks] at h
      dsimp only at h ⊢
      split_ifs at h ⊢ with isNull isTrue isFalse isNumber isText isList isObject
      · obtain ⟨read, shorter⟩ := skipWord_ok rfl h
        exact ⟨read, by omega⟩
      · obtain ⟨read, shorter⟩ := skipWord_ok rfl h
        exact ⟨read, by omega⟩
      · obtain ⟨read, shorter⟩ := skipWord_ok rfl h
        exact ⟨read, by omega⟩
      · obtain ⟨⟨n, _⟩, scanned, h⟩ := exists_of_bind_ok h
        obtain ⟨⟨digits, _⟩, read, hvalue⟩ := exists_of_bind_ok scanned
        obtain ⟨_, -, hlast⟩ := exists_of_bind_ok hvalue
        cases hlast
        cases h
        obtain ⟨readOther, shorter⟩ := numeral_ok .badNumber read
        rw [List.length_cons] at shorter
        refine ⟨by rw [readOther]; rfl, ?_⟩
        dsimp only
        omega
      · obtain ⟨⟨s, _⟩, read, h⟩ := exists_of_bind_ok h
        cases h
        obtain ⟨skipped, shorter⟩ := skipText_of_textBody read
        refine ⟨by rw [skipped]; rfl, ?_⟩
        dsimp only
        omega
      · cases h
        exact ⟨rfl, by omega⟩
      · cases h
        exact ⟨rfl, by omega⟩

/-! ## Lists and objects -/

theorem blank_takeWhile (input : Bytes) : IsBlank (input.takeWhile isBlankByte) :=
  fun _ h => List.all_eq_true.mp List.all_takeWhile _ h

theorem takeWhile_skipBlanks (input : Bytes) :
    input.takeWhile isBlankByte ++ skipBlanks input = input :=
  List.takeWhile_append_dropWhile

section

variable (pass : Bytes → Except Problem Bytes) {first : Bool} {left : Bytes} (tick : UInt8)
  (clock : Bytes)

theorem skipItems_done (h : nextItem first input = .ok (.done rest)) :
    skipItems pass first (tick :: clock) input = .ok rest ∧ rest.length ≤ input.length := by
  have short := length_skipBlanks input
  rw [nextItem] at h
  rw [skipItems]
  cases blanks : skipBlanks input with
  | nil =>
      rw [blanks] at h
      cases h
  | cons b more =>
      rw [blanks, List.length_cons] at short
      rw [blanks] at h
      dsimp only at h ⊢
      split_ifs at h ⊢ with isEnd isFirst isComma
      · cases h
        exact ⟨rfl, by omega⟩
      · cases h
      · split at h
        · cases h
        · split_ifs at h
          cases h

theorem skipItems_item (h : nextItem first input = .ok (.item left)) :
    ∃ blanks, IsBlank blanks ∧ skipItems pass first (tick :: clock) input =
      (pass (blanks ++ left) >>= skipItems pass false clock) ∧ left.length ≤ input.length := by
  have short := length_skipBlanks input
  rw [nextItem] at h
  rw [skipItems]
  cases blanks : skipBlanks input with
  | nil =>
      rw [blanks] at h
      cases h
  | cons b more =>
      rw [blanks, List.length_cons] at short
      rw [blanks] at h
      dsimp only at h ⊢
      split_ifs at h ⊢ with isEnd isFirst isComma
      · cases h
      · cases h
        exact ⟨[], List.forall_mem_nil _, rfl, short⟩
      · have parts := takeWhile_skipBlanks more
        have shorter := length_skipBlanks more
        refine ⟨_, blank_takeWhile more, ?_⟩
        cases blanksMore : skipBlanks more with
        | nil =>
            rw [blanksMore] at h
            cases h
        | cons c others =>
            rw [blanksMore] at h parts shorter
            dsimp only at h
            split_ifs at h
            cases h
            rw [parts]
            exact ⟨rfl, by omega⟩

theorem skipMembers_done (h : nextMember first input = .ok (.done rest)) :
    skipMembers pass first (tick :: clock) input = .ok rest ∧ rest.length ≤ input.length := by
  have short := length_skipBlanks input
  rw [nextMember] at h
  rw [skipMembers]
  cases blanks : skipBlanks input with
  | nil =>
      rw [blanks] at h
      cases h
  | cons b more =>
      rw [blanks, List.length_cons] at short
      rw [blanks] at h
      dsimp only at h ⊢
      split_ifs at h ⊢ with isEnd isFirst isQuote isComma
      · cases h
        exact ⟨rfl, by omega⟩
      · obtain ⟨_, -, same⟩ := exists_of_map_ok h
        cases same
      · split at h
        · cases h
        · split_ifs at h
          obtain ⟨_, -, same⟩ := exists_of_map_ok h
          cases same

theorem skipKey_of_textBody {key : String} {after : Bytes}
    (read : textBody rest = .ok (key, after)) (colon : expectColon after = .ok left)
    (h : skipBlanks input = Ascii.quote :: rest) :
    skipKey input = .ok left ∧ left.length ≤ rest.length := by
  obtain ⟨skipped, shorter⟩ := skipText_of_textBody read
  refine ⟨by rw [skipKey, h]; simp only [if_pos, skipped, bind, Except.bind, colon], ?_⟩
  have short := length_skipBlanks after
  rw [expectColon] at colon
  cases blanks : skipBlanks after with
  | nil =>
      rw [blanks] at colon
      cases colon
  | cons b more =>
      rw [blanks] at colon short
      dsimp only at colon
      split_ifs at colon
      cases colon
      rw [List.length_cons] at short
      omega

theorem skipMembers_member {key : String} {after : Bytes}
    (h : nextMember first input = .ok (.member key after)) (colon : expectColon after = .ok left) :
    skipMembers pass first (tick :: clock) input = (pass left >>= skipMembers pass false clock) ∧
      left.length ≤ input.length := by
  have short := length_skipBlanks input
  rw [nextMember] at h
  rw [skipMembers]
  cases blanks : skipBlanks input with
  | nil =>
      rw [blanks] at h
      cases h
  | cons b more =>
      rw [blanks, List.length_cons] at short
      rw [blanks] at h
      dsimp only at h ⊢
      split_ifs at h ⊢ with isEnd isFirst isQuote isComma
      · cases h
      · obtain ⟨⟨name, _⟩, read, same⟩ := exists_of_map_ok h
        cases same
        subst isQuote
        have noBlank : isBlankByte Ascii.quote = false := rfl
        obtain ⟨skipped, shorter⟩ := skipKey_of_textBody read colon (skipBlanks_cons noBlank)
        exact ⟨by simp only [skipped, bind, Except.bind], by omega⟩
      · have shorter := length_skipBlanks more
        cases blanksMore : skipBlanks more with
        | nil =>
            rw [blanksMore] at h
            cases h
        | cons c others =>
            rw [blanksMore] at h shorter
            dsimp only at h
            split_ifs at h with isQuote
            obtain ⟨⟨name, _⟩, read, same⟩ := exists_of_map_ok h
            cases same
            obtain ⟨skipped, fewer⟩ := skipKey_of_textBody read colon (isQuote ▸ blanksMore)
            rw [List.length_cons] at shorter
            exact ⟨by simp only [skipped, bind, Except.bind], by omega⟩

end

section

variable {α : Type} {read : Reader α} {pass : Bytes → Except Problem Bytes} {bound : Nat}
  (step : ∀ input x rest, input.length ≤ bound → read input = .ok (x, rest) →
    pass input = .ok rest ∧ rest.length ≤ input.length)

include step

theorem skipItems_of_itemsFrom
    (blind : ∀ blanks input, IsBlank blanks → pass (blanks ++ input) = pass input)
    {first : Bool} {clock : Bytes} {xs : List α} (short : input.length ≤ bound)
    (h : itemsFrom read first clock input = .ok (xs, rest)) :
    skipItems pass first clock input = .ok rest ∧ rest.length ≤ input.length := by
  induction clock generalizing first input xs with
  | nil => cases h
  | cons tick clock ih =>
      obtain ⟨place, next, h⟩ := exists_of_bind_ok h
      cases place with
      | done left =>
          cases h
          exact skipItems_done pass tick clock next
      | item left =>
          obtain ⟨⟨x, _⟩, readItem, h⟩ := exists_of_bind_ok h
          obtain ⟨⟨others, _⟩, readOthers, h⟩ := exists_of_bind_ok h
          cases h
          obtain ⟨blanks, blank, skipped, shorter⟩ := skipItems_item pass tick clock next
          obtain ⟨passed, fewer⟩ := step _ _ _ (by omega) readItem
          obtain ⟨passedOthers, fewest⟩ := ih (by omega) readOthers
          rw [skipped, blind _ _ blank, passed]
          exact ⟨passedOthers, by omega⟩

theorem skipMembers_of_membersFrom {first : Bool} {clock : Bytes} {xs : List (String × α)}
    (short : input.length ≤ bound) (h : membersFrom read first clock input = .ok (xs, rest)) :
    skipMembers pass first clock input = .ok rest ∧ rest.length ≤ input.length := by
  induction clock generalizing first input xs with
  | nil => cases h
  | cons tick clock ih =>
      obtain ⟨place, next, h⟩ := exists_of_bind_ok h
      cases place with
      | done left =>
          cases h
          exact skipMembers_done pass tick clock next
      | member key after =>
          obtain ⟨left, colon, h⟩ := exists_of_bind_ok h
          obtain ⟨⟨x, _⟩, readValue, h⟩ := exists_of_bind_ok h
          obtain ⟨⟨others, _⟩, readOthers, h⟩ := exists_of_bind_ok h
          cases h
          obtain ⟨skipped, shorter⟩ := skipMembers_member pass tick clock next colon
          obtain ⟨passed, fewer⟩ := step _ _ _ (by omega) readValue
          obtain ⟨passedOthers, fewest⟩ := ih (by omega) readOthers
          rw [skipped, passed]
          exact ⟨passedOthers, by omega⟩

end

/-! ## Values -/

theorem skipValue_append {depth : Nat} {blanks : Bytes} (blank : IsBlank blanks) (input : Bytes) :
    skipValue depth (blanks ++ input) = skipValue depth input := by
  cases depth with
  | zero => rfl
  | succ depth => rw [skipValue, skipValue, skipHead_append blank]

theorem skipValue_of_valueWith {inner : Option (Reader Json)} {j : Json}
    (step : ∀ read, inner = some read → ∀ bound input j rest, input.length < bound →
      read input = .ok (j, rest) → skipValue bound input = .ok rest ∧ rest.length ≤ input.length)
    (h : valueWith inner input = .ok (j, rest)) {bound : Nat} (deep : input.length < bound) :
    skipValue bound input = .ok rest ∧ rest.length ≤ input.length := by
  obtain ⟨⟨head, left⟩, scanned, h⟩ := exists_of_bind_ok h
  obtain ⟨skipped, shorter⟩ := skipHead_of_scanHead scanned
  cases bound with
  | zero => cases deep
  | succ bound =>
      rw [skipValue, skipped]
      cases head with
      | list =>
          cases inner with
          | none => cases h
          | some read =>
              obtain ⟨⟨xs, _⟩, readItems, h⟩ := exists_of_bind_ok h
              cases h
              have passes (input : Bytes) (j : Json) (rest : Bytes)
                  (short : input.length ≤ left.length) :=
                step read rfl bound input j rest (by omega)
              obtain ⟨passed, fewer⟩ := skipItems_of_itemsFrom passes
                (fun _ input blank => skipValue_append blank input) (Nat.le_refl _) readItems
              exact ⟨passed, by omega⟩
      | object =>
          cases inner with
          | none => cases h
          | some read =>
              obtain ⟨⟨xs, _⟩, readMembers, h⟩ := exists_of_bind_ok h
              cases h
              have passes (input : Bytes) (j : Json) (rest : Bytes)
                  (short : input.length ≤ left.length) :=
                step read rfl bound input j rest (by omega)
              obtain ⟨passed, fewer⟩ :=
                skipMembers_of_membersFrom passes (Nat.le_refl _) readMembers
              exact ⟨passed, by omega⟩
      | _ =>
          cases h
          exact ⟨rfl, Nat.le_of_lt shorter⟩

theorem skipValue_of_value {depth bound : Nat} {j : Json}
    (h : value depth input = .ok (j, rest)) (deep : input.length < bound) :
    skipValue bound input = .ok rest ∧ rest.length ≤ input.length := by
  induction depth generalizing bound input j rest with
  | zero =>
      refine skipValue_of_valueWith ?_ h deep
      rintro _ ⟨⟩
  | succ depth ih =>
      refine skipValue_of_valueWith ?_ h deep
      rintro _ ⟨⟩ bound input j rest deep read
      exact ih read deep

/-- What can be read can be passed over. -/
theorem skip_of_value {depth : Nat} {j : Json} (h : value depth input = .ok (j, rest)) :
    skip input = .ok rest :=
  (skipValue_of_value h (Nat.lt_succ_self _)).1

end MuxConsole.Json
