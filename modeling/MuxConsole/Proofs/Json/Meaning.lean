import MuxConsole.Proofs.Json.Doubles

/-!
# What any JSON text means

Apart from what a reader can take, a text means a value however deep it is nested, and its
numerals mean numbers without any rounding on the way.  What a value is rendered as means
that value, and no byte of it is below the blank.
-/

namespace MuxConsole.Json

/-! ## Meaning -/

/-- What a numeral means: the whole number that it is, if that is a word, else the finite
double that is nearest to it. -/
inductive Numeral.Means (n : Numeral) : Number → Prop
  | word {value : Number} (h : n.word? = some value) : Means n value
  | double {d : Decimal.Double} (noWord : n.word? = none) (sign : d.negative = n.negative)
      (finite : d.IsFinite) (nearest : d.Nearest n.size) : Means n (.double d)

inductive Means : Bytes → Json → Prop
  | null : Means (Utf8.encode "null") .null
  | bool (b : Bool) : Means (Utf8.encodeChars (renderBool b)) (.bool b)
  | number {text : Bytes} {n : Numeral} {value : Number} (form : IsNumeral text)
      (read : ∀ atEnd, numeral atEnd text = .ok (n, [])) (means : n.Means value) :
      Means text (.number value)
  | text {quoted : Bytes} {s : String} (h : DenotesText quoted s) : Means quoted (.text s)
  | list {blanks : Bytes} {items : List (Spaced Json)} (blank : IsBlank blanks)
      (each : ∀ item ∈ items, Means item.text item.content) :
      Means (Ascii.openBracket ::
          (blanks ++ enclosed Ascii.closeBracket (items.map Spaced.bytes)))
        (.list (items.map Spaced.content))
  | object {blanks : Bytes} {members : List (Assigned Json)} (blank : IsBlank blanks)
      (keys : ∀ member ∈ members, DenotesText member.key.text member.key.content)
      (each : ∀ member ∈ members, Means member.value.text member.value.content) :
      Means (Ascii.openBrace ::
          (blanks ++ enclosed Ascii.closeBrace (members.map Assigned.bytes)))
        (.object (Members.collect (members.map Assigned.content)))

/-- A value with no name twice in an object and no double that is infinite or no number, as
every value is that was read. -/
inductive Proper : Json → Prop
  | null : Proper .null
  | bool (b : Bool) : Proper (.bool b)
  | whole {n : Int} (inRange : IsWord n) : Proper (.number (.whole n inRange))
  | double {d : Decimal.Double} (finite : d.IsFinite) : Proper (.number (.double d))
  | text (s : String) : Proper (.text s)
  | list {items : List Json} (each : ∀ item ∈ items, Proper item) : Proper (.list items)
  | object {members : Members} (distinct : members.names.Nodup)
      (each : ∀ member ∈ members, Proper member.2) : Proper (.object members)

/-! ## What is rendered means its value -/

theorem means_whole {n : Int} (inRange : IsWord n) :
    Means (rendered (.number (.whole n inRange))) (.number (.whole n inRange)) := by
  have read (atEnd : Problem) := numeral_renderWhole atEnd n Numeral.endsNumeral_nil
  simp only [List.append_nil] at read
  have value := value_wholeNumeral n inRange
  refine .number (isNumeral_renderWhole n) read (.word ?_)
  rw [Numeral.value] at value
  cases word : Numeral.word? ⟨decide (n < 0), digits n.natAbs, [], none⟩ with
  | some found =>
      rw [word] at value
      exact congrArg some (Except.ok.inj value)
  | none =>
      rw [word] at value
      dsimp only at value
      split at value <;> cases value

theorem means_double {d : Decimal.Double} (finite : d.IsFinite) :
    Means (rendered (.number (.double d))) (.number (.double d)) := by
  have text : rendered (.number (.double d)) = (numeralOf d).text := (text_numeralOf d).symm
  rw [text]
  exact .number (sound_numeralOf d).isNumeral_text (sound_numeralOf d).numeral_text
    (.double (word?_numeralOf d) (negative_numeralOf d).symm finite (nearest_numeralOf d))

theorem means_rendered {j : Json} (proper : Proper j) : Means (rendered j) j := by
  induction proper with
  | null => exact .null
  | bool b => exact .bool b
  | whole inRange => exact means_whole inRange
  | double finite => exact means_double finite
  | text s => exact .text (denotesText_renderText s)
  | @list items _ ih =>
      have each : ∀ item ∈ items.map tightItem, Means item.text item.content :=
        List.forall_mem_map.mpr ih
      have list := Means.list isBlank_nil each
      rw [map_bytes_tightItem, map_content_tightItem] at list
      rw [rendered_list]
      exact list
  | @object members distinct _ ih =>
      have keys : ∀ member ∈ members.map tightMember,
          DenotesText member.key.text member.key.content :=
        List.forall_mem_map.mpr fun member _ => denotesText_renderText member.1
      have each : ∀ member ∈ members.map tightMember,
          Means member.value.text member.value.content := List.forall_mem_map.mpr ih
      have object := Means.object isBlank_nil keys each
      rw [map_bytes_tightMember, map_content_tightMember,
        Members.collect_of_distinct distinct] at object
      rw [rendered_object]
      exact object

/-! ## What is read is proper -/

open Decimal in
theorem isFinite_scaledDown {f d : Double} {n : Nat} (finite : f.IsFinite)
    (h : scaledDown f n = some d) : d.IsFinite := by
  induction f, n using scaledDown.induct with
  | case1 f n small =>
      rw [scaledDown, if_pos small] at h
      obtain ⟨_, _, divided⟩ := Option.bind_eq_some_iff.mp h
      exact Double.isFinite_ofRatio divided
  | case2 f n large zero =>
      rw [scaledDown, if_neg large, if_pos zero] at h
      cases h
      exact finite
  | case3 f n large nonzero ih =>
      rw [scaledDown, if_neg large, if_neg nonzero] at h
      obtain ⟨_, _, next⟩ := Option.bind_eq_some_iff.mp h
      obtain ⟨g, divided, rest⟩ := Option.bind_eq_some_iff.mp next
      exact ih g (Double.isFinite_ofRatio divided) rest

open Decimal in
theorem isFinite_scaled {significand : Nat} {exponent : Int} {d : Double}
    (h : scaled significand exponent = some d) : d.IsFinite := by
  obtain ⟨f, whole, h⟩ := Option.bind_eq_some_iff.mp h
  have finite := Double.isFinite_ofRatio whole
  split at h
  · exact isFinite_scaledDown finite h
  · split at h
    · obtain ⟨_, _, product⟩ := Option.bind_eq_some_iff.mp h
      exact Double.isFinite_ofRatio product
    · split at h
      · cases h
        exact finite
      · cases h

namespace Numeral

variable {n : Numeral} {d : Decimal.Double}

theorem isFinite_of_magnitude (h : n.magnitude = some d) : d.IsFinite := by
  unfold magnitude at h
  dsimp only at h
  split at h
  · exact isFinite_scaled h
  · split at h
    · split at h
      · cases h
      · cases h
        exact Decimal.Double.isFinite_zero
    · exact isFinite_scaled h

theorem word?_ne_double : n.word? ≠ some (.double d) := by
  unfold word?
  grind

theorem isFinite_of_value (h : n.value = .ok (.double d)) : d.IsFinite := by
  unfold value at h
  split at h
  · rename_i word
    cases h
    exact absurd word word?_ne_double
  · split at h
    · rename_i magnitude
      cases h
      split
      · exact (isFinite_of_magnitude magnitude).neg
      · exact isFinite_of_magnitude magnitude
    · cases h

end Numeral

theorem exists_value_of_scanNumber {input rest : Bytes} {value : Number}
    (h : scanNumber input = .ok (value, rest)) : ∃ n : Numeral, n.value = .ok value := by
  obtain ⟨⟨n, left⟩, _, hvalue⟩ := exists_of_bind_ok h
  obtain ⟨found, hfound, same⟩ := exists_of_bind_ok hvalue
  cases same
  exact ⟨n, hfound⟩

theorem exists_value_of_scanHead {input rest : Bytes} {value : Number}
    (h : scanHead input = .ok (.number value, rest)) : ∃ n : Numeral, n.value = .ok value := by
  have noWord {word input : Bytes} {other : Head} (apart : other ≠ .number value) :
      (expectWord word input).map (other, ·) ≠ .ok (.number value, rest) := by
    intro same
    obtain ⟨left, _, same⟩ := exists_of_map_ok same
    exact apart (congrArg Prod.fst same)
  rw [scanHead] at h
  cases blanks : skipBlanks input with
  | nil =>
      rw [blanks] at h
      cases h
  | cons b more =>
      rw [blanks] at h
      dsimp only at h
      split_ifs at h
      · exact absurd h (noWord Head.noConfusion)
      · exact absurd h (noWord Head.noConfusion)
      · exact absurd h (noWord Head.noConfusion)
      · obtain ⟨scanned, hscanned, same⟩ := exists_of_bind_ok h
        cases same
        exact exists_value_of_scanNumber hscanned
      · obtain ⟨_, _, same⟩ := exists_of_bind_ok h
        cases same
      · cases h
      · cases h

theorem proper_number {input rest : Bytes} {value : Number}
    (h : scanHead input = .ok (.number value, rest)) : Proper (.number value) := by
  obtain ⟨n, hvalue⟩ := exists_value_of_scanHead h
  cases value with
  | whole n inRange => exact .whole inRange
  | double d => exact .double (Numeral.isFinite_of_value hvalue)

theorem proper_of_value {depth : Nat} {input rest : Bytes} {j : Json}
    (h : value depth input = .ok (j, rest)) : Proper j := by
  induction depth generalizing input rest j with
  | zero =>
      cases composed_of_valueWith h with
      | null => exact .null
      | bool b => exact .bool b
      | number scanned => exact proper_number scanned
      | text s => exact .text s
  | succ depth ih =>
      have below {j : Json} (reads : Reads (value depth) j) : Proper j := by
        obtain ⟨_, _, hread⟩ := reads
        exact ih hread
      cases composed_of_valueWith h with
      | null => exact .null
      | bool b => exact .bool b
      | number scanned => exact proper_number scanned
      | text s => exact .text s
      | list each => exact .list fun item hitem => below (each item hitem)
      | object distinct each =>
          exact .object distinct fun member hmember => below (each member hmember)

theorem proper_of_parse {input : Bytes} {j : Json} (h : parse input = .ok j) : Proper j := by
  obtain ⟨_, _, hvalue⟩ := reads_of_parse h
  exact proper_of_value hvalue

theorem Proper.put {members : Members} {name : String} {value : Json}
    (h : Proper (.object members)) (hvalue : Proper value) :
    Proper (.object (members.put name value)) := by
  cases h with
  | object distinct each =>
      refine .object (Members.nodup_put name value distinct) fun member hmember => ?_
      rcases Members.mem_put hmember with rfl | hmember
      · exact hvalue
      · exact each member hmember

/-! ## No control characters -/

def Printable (text : Bytes) : Prop := ∀ b ∈ text, 0x20 ≤ b

instance (text : Bytes) : Decidable (Printable text) :=
  decidable_of_iff (text.all fun b => decide (0x20 ≤ b)) (by simp [Printable])

namespace Printable

variable {text other : Bytes}

theorem append (h : Printable text) (h' : Printable other) : Printable (text ++ other) :=
  List.forall_mem_append.mpr ⟨h, h'⟩

theorem cons {b : UInt8} (first : 0x20 ≤ b) (h : Printable text) : Printable (b :: text) :=
  List.forall_mem_cons.mpr ⟨first, h⟩

theorem newline_not_mem (h : Printable text) : Ascii.newline ∉ text := by
  intro here
  exact absurd (h _ here) (by decide)

theorem tailed {close : UInt8} (closing : 0x20 ≤ close) {items : List Bytes}
    (h : ∀ item ∈ items, Printable item) : Printable (tailed close items) := by
  induction items with
  | nil => exact .cons closing (List.forall_mem_nil _)
  | cons item rest ih =>
      obtain ⟨first, others⟩ := List.forall_mem_cons.mp h
      exact .cons (by decide) (first.append (ih others))

theorem enclosed {close : UInt8} (closing : 0x20 ≤ close) {items : List Bytes}
    (h : ∀ item ∈ items, Printable item) : Printable (enclosed close items) := by
  cases items with
  | nil => exact .cons closing (List.forall_mem_nil _)
  | cons item rest =>
      obtain ⟨first, others⟩ := List.forall_mem_cons.mp h
      exact first.append (tailed closing others)

end Printable

/-! ### Numerals -/

theorem printable_of_isDigit {digits : Bytes} (h : ∀ b ∈ digits, Ascii.isDigit b = true) :
    Printable digits := by
  intro b hb
  have digit := h b hb
  simp only [Ascii.isDigit, Bool.and_eq_true, decide_eq_true_eq] at digit
  exact UInt8.le_trans (by decide) digit.1

theorem IsDigits.printable {digits : Bytes} (h : IsDigits digits) : Printable digits :=
  printable_of_isDigit h.2

theorem IsNumeral.printable {text : Bytes} (h : IsNumeral text) : Printable text := by
  obtain ⟨sign, whole, fraction, exponent, rfl, hsign, hwhole, hfraction, hexponent⟩ := h
  have printableSigns : ∀ sign ∈ [[], [Ascii.plus], [Ascii.minus]], Printable sign := by decide
  refine .append (printableSigns sign ?_) (.append ?_ (.append ?_ ?_))
  · simp only [List.mem_cons, List.not_mem_nil, or_false] at hsign ⊢
    exact hsign.imp_right .inr
  · cases hwhole with
    | zero => exact .cons (by decide) (List.forall_mem_nil _)
    | digits _ h => exact h.printable
  · cases hfraction with
    | none => exact List.forall_mem_nil _
    | some h => exact .cons (by decide) h.printable
  · cases hexponent with
    | none => exact List.forall_mem_nil _
    | some letter hsign h =>
        refine .cons ?_ (.append (printableSigns _ hsign) h.printable)
        rcases letter with rfl | rfl <;> decide

/-! ### Texts -/

theorem DenotesUnit.printable {digits : Bytes} {unit : Nat} (h : DenotesUnit digits unit) :
    Printable digits := by
  obtain ⟨_, _, _, _, values, -⟩ := h
  intro b hb
  have listed := List.mem_map_of_mem (f := Ascii.hexValue?) hb
  rw [values] at listed
  unfold Ascii.hexValue? at listed
  split at listed
  · rename_i digit
    exact printable_of_isDigit (List.forall_mem_singleton.mpr digit) b List.mem_cons_self
  · split at listed
    · rename_i lower
      exact UInt8.le_trans (by decide) lower.1
    · split at listed
      · rename_i upper
        exact UInt8.le_trans (by decide) upper.1
      · simp at listed

theorem DenotesChar.printable {body : Bytes} {c : Char} (h : DenotesChar body c) :
    Printable body := by
  cases h with
  | plain noQuote noBackslash noControl =>
      intro b hb
      have plain := isPlainByte_iff.mp (isPlainByte_of_mem noQuote noBackslash noControl hb)
      exact UInt8.le_iff_toNat_le.mpr plain.2.2
  | letter h =>
      have letters : Printable (escapeLetters.map Prod.fst) := by decide
      exact .cons (by decide) (List.forall_mem_singleton.mpr
        (letters _ (List.mem_map_of_mem h)))
  | unit h => exact .cons (by decide) (.cons (by decide) h.printable)
  | pair _ first second =>
      exact .cons (by decide) (.cons (by decide) (first.printable.append
        (.cons (by decide) (.cons (by decide) second.printable))))

theorem DenotesChars.printable {body : Bytes} {text : List Char} (h : DenotesChars body text) :
    Printable body := by
  induction h with
  | nil => exact List.forall_mem_nil _
  | cons first _ ih => exact first.printable.append ih

theorem DenotesText.printable {quoted : Bytes} {s : String} (h : DenotesText quoted s) :
    Printable quoted := by
  obtain ⟨body, chars, rfl⟩ := h
  exact .cons (by decide) (chars.printable.append (.cons (by decide) (List.forall_mem_nil _)))

/-! ### Values -/

theorem printable_number (n : Number) : Printable (rendered (.number n)) := by
  cases n with
  | whole n inRange => exact (isNumeral_renderWhole n).printable
  | double d =>
      have text : rendered (.number (.double d)) = (numeralOf d).text := (text_numeralOf d).symm
      rw [text]
      exact (sound_numeralOf d).isNumeral_text.printable

mutual

/-- Whatever the value, no byte of what it is rendered as is below the blank. -/
theorem printable_rendered : (j : Json) → Printable (rendered j)
  | .null => by decide
  | .bool b => by cases b <;> decide
  | .number n => printable_number n
  | .text s => (denotesText_renderText s).printable
  | .list items => by
      rw [rendered_list]
      exact .cons (by decide) (.enclosed (by decide) (printable_items items))
  | .object members => by
      rw [rendered_object]
      exact .cons (by decide) (.enclosed (by decide) (printable_members members))

theorem printable_items : (items : List Json) → ∀ text ∈ items.map rendered, Printable text
  | [] => List.forall_mem_nil _
  | item :: rest => List.forall_mem_cons.mpr ⟨printable_rendered item, printable_items rest⟩

theorem printable_members :
    (members : List (String × Json)) → ∀ text ∈ members.map renderedMember, Printable text
  | [] => List.forall_mem_nil _
  | (name, value) :: rest =>
      List.forall_mem_cons.mpr ⟨(denotesText_renderText name).printable.append
        (.cons (by decide) (printable_rendered value)), printable_members rest⟩

end

end MuxConsole.Json
