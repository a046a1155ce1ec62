import MuxConsole.Json.Skip
import MuxConsole.Proofs.Json.Text

/-!
# Texts in quotes by their form

What counts as a text in quotes, whatever it says: with any bytes and any surrogates in
it.  The reader may refuse such a text, but it refuses it for what stands in it, and never
for what comes after it.
-/

namespace MuxConsole.Json

variable {rest : Bytes}

/-! ## Texts -/

/-- How a character of a text is written: as its own bytes or as an escape. -/
inductive IsGlyph : Bytes → Prop
  | plain {b : UInt8} (h : isPlainByte b = true) : IsGlyph [b]
  | letter {l : UInt8} {c : Char} (h : escapeLetter? l = some c) : IsGlyph [Ascii.backslash, l]
  | unit {digits : Bytes} {unit : Nat} (h : DenotesUnit digits unit) :
      IsGlyph (Ascii.backslash :: Ascii.lowerU :: digits)

def IsQuoted (text : Bytes) : Prop :=
  ∃ glyphs : List Bytes, (∀ glyph ∈ glyphs, IsGlyph glyph) ∧
    text = Ascii.quote :: (glyphs.flatten ++ [Ascii.quote])

/-! ### Escapes by number -/

def secondUnit (unit : Nat) (input : Bytes) : Except Problem (Char × Bytes) := do
  let input ← surrogateGoesOn Ascii.backslash input
  let input ← surrogateGoesOn Ascii.lowerU input
  let (second, input) ← hexUnit input
  if IsTrailingSurrogate second then
    return (Char.ofNat (0x10000 + (unit - 0xD800) * 0x400 + (second - 0xDC00)), input)
  else throw .loneSurrogate

section

variable {digits : Bytes} {unit : Nat}

theorem unicodeEscape_trailing (h : DenotesUnit digits unit) (trails : IsTrailingSurrogate unit)
    (input : Bytes) : unicodeEscape (digits ++ input) = .error .loneSurrogate := by
  simp only [unicodeEscape, hexUnit_digits h, bind, Except.bind, if_pos trails]
  rfl

theorem unicodeEscape_leading (h : DenotesUnit digits unit) (noTrail : ¬ IsTrailingSurrogate unit)
    (leads : IsLeadingSurrogate unit) (input : Bytes) :
    unicodeEscape (digits ++ input) = secondUnit unit input := by
  simp only [unicodeEscape, hexUnit_digits h, bind, Except.bind, if_neg noTrail, if_pos leads,
    secondUnit]

theorem unicodeEscape_alone (h : DenotesUnit digits unit) (noTrail : ¬ IsTrailingSurrogate unit)
    (noLead : ¬ IsLeadingSurrogate unit) (input : Bytes) :
    unicodeEscape (digits ++ input) = .ok (Char.ofNat unit, input) := by
  simp only [unicodeEscape, hexUnit_digits h, bind, Except.bind, if_neg noTrail, if_neg noLead]
  rfl

theorem secondUnit_of_ne {b : UInt8} (h : b ≠ Ascii.backslash) (input : Bytes) :
    secondUnit unit (b :: input) = .error .surrogateEnds := by
  rw [secondUnit, surrogateGoesOn, if_neg h]
  rfl

theorem secondUnit_letter {l : UInt8} (h : l ≠ Ascii.lowerU) (input : Bytes) :
    secondUnit unit (Ascii.backslash :: l :: input) = .error .surrogateEnds := by
  simp only [secondUnit, surrogateGoesOn, if_pos, if_neg h, bind, Except.bind]

theorem secondUnit_unit (unit : Nat) {second : Nat} (h : DenotesUnit digits second)
    (input : Bytes) :
    secondUnit unit (Ascii.backslash :: Ascii.lowerU :: (digits ++ input)) =
      if IsTrailingSurrogate second then
        .ok (Char.ofNat (0x10000 + (unit - 0xD800) * 0x400 + (second - 0xDC00)), input)
      else .error .loneSurrogate := by
  simp only [secondUnit, surrogateGoesOn, if_pos, hexUnit_digits h, bind, Except.bind]
  split <;> rfl

end

theorem exists_holds_unit {digits : Bytes} {unit : Nat} (h : DenotesUnit digits unit)
    {glyphs : List Bytes} (each : ∀ glyph ∈ glyphs, IsGlyph glyph)
    (shorter : ∀ fewer : List Bytes, fewer.length ≤ glyphs.length →
      (∀ glyph ∈ fewer, IsGlyph glyph) → ∃ result, Holds fewer.flatten result) :
    ∃ result, Holds (Ascii.backslash :: Ascii.lowerU :: (digits ++ glyphs.flatten)) result := by
  have refused (problem : Problem) (h : ∀ rest,
      unicodeEscape (digits ++ (glyphs.flatten ++ Ascii.quote :: rest)) = .error problem) :
      ∃ result, Holds (Ascii.backslash :: Ascii.lowerU :: (digits ++ glyphs.flatten)) result := by
    refine ⟨.error problem, .refused fun rest => ?_⟩
    rw [List.cons_append, List.append_assoc]
    exact h rest
  by_cases trails : IsTrailingSurrogate unit
  · exact refused .loneSurrogate fun rest => unicodeEscape_trailing h trails _
  by_cases alone : ¬ IsLeadingSurrogate unit
  · obtain ⟨result, holds⟩ := shorter glyphs (Nat.le_refl _) each
    exact ⟨_, holds.escape (Ascii.lowerU :: digits) (unicodeEscape_alone h trails alone)⟩
  have second := unicodeEscape_leading h trails (Decidable.not_not.mp alone)
  cases glyphs with
  | nil =>
      refine refused .surrogateEnds fun rest => (second _).trans ?_
      exact secondUnit_of_ne (by decide) rest
  | cons glyph glyphs =>
      obtain ⟨isGlyph, others⟩ := List.forall_mem_cons.mp each
      cases isGlyph with
      | @plain b hb =>
          refine refused .surrogateEnds fun rest => (second _).trans ?_
          simp only [isPlainByte, Bool.and_eq_true, decide_eq_true_eq] at hb
          exact secondUnit_of_ne hb.1.2 _
      | @letter l c hl =>
          refine refused .surrogateEnds fun rest => (second _).trans ?_
          have noUnit : l ≠ Ascii.lowerU := by
            rintro rfl
            cases hl
          exact secondUnit_letter noUnit _
      | @unit trailing low hlow =>
          have pair (input : Bytes) := secondUnit_unit unit hlow input
          by_cases isTrailing : IsTrailingSurrogate low
          · obtain ⟨result, holds⟩ := shorter glyphs (Nat.le_succ _) others
            have escape (rest : Bytes) := (second _).trans ((pair rest).trans (if_pos isTrailing))
            have all := holds.escape
              (Ascii.lowerU :: (digits ++ Ascii.backslash :: Ascii.lowerU :: trailing))
              fun rest => by
                rw [List.cons_append, List.append_assoc]
                exact escape rest
            exact ⟨_, by simpa using all⟩
          · refine refused .loneSurrogate fun rest => (second _).trans ?_
            simpa [isTrailing] using pair (glyphs.flatten ++ Ascii.quote :: rest)

theorem exists_holds (glyphs : List Bytes) (each : ∀ glyph ∈ glyphs, IsGlyph glyph) :
    ∃ result, Holds glyphs.flatten result := by
  -- A surrogate may take the next character with it, so the induction is on their number.
  induction hn : glyphs.length using Nat.strongRecOn generalizing glyphs with
  | ind n ih =>
      subst hn
      cases glyphs with
      | nil => exact ⟨_, .nil⟩
      | cons glyph glyphs =>
          obtain ⟨isGlyph, others⟩ := List.forall_mem_cons.mp each
          have shorter (fewer : List Bytes) (h : fewer.length ≤ glyphs.length)
              (each : ∀ glyph ∈ fewer, IsGlyph glyph) :=
            ih fewer.length (Nat.lt_succ_of_le h) fewer each rfl
          obtain ⟨result, holds⟩ := shorter glyphs (Nat.le_refl _) others
          rw [List.flatten_cons]
          cases isGlyph with
          | plain h => exact ⟨_, holds.plain h⟩
          | @letter l c h =>
              refine ⟨_, holds.escape [l] (c := c) fun rest => ?_⟩
              rw [List.singleton_append, escapeBody, h]
          | unit h => exact exists_holds_unit h others shorter

/-- What a text in quotes is read as, or why it is refused, is settled by its closing
quote. -/
theorem IsQuoted.spells {text : Bytes} (h : IsQuoted text) : Spells text (spelled text) := by
  obtain ⟨glyphs, each, rfl⟩ := h
  obtain ⟨bytes, holds⟩ := exists_holds glyphs each
  have spells := spells_of_holds holds
  rw [spells.spelled_eq]
  exact spells

theorem skipText_glyphs {glyphs : List Bytes} (each : ∀ glyph ∈ glyphs, IsGlyph glyph)
    (rest : Bytes) {clock : Bytes} (long : glyphs.flatten.length < clock.length) :
    skipText clock (glyphs.flatten ++ Ascii.quote :: rest) = .ok rest := by
  have noQuote : ¬ Ascii.backslash = Ascii.quote := by decide
  induction glyphs generalizing clock with
  | nil =>
      cases clock with
      | nil => cases long
      | cons _ clock => rfl
  | cons glyph glyphs ih =>
      obtain ⟨isGlyph, others⟩ := List.forall_mem_cons.mp each
      cases clock with
      | nil => cases long
      | cons _ clock =>
          rw [List.flatten_cons, List.length_append, List.length_cons] at long
          have shorter : glyph ≠ [] → glyphs.flatten.length < clock.length := by
            intro nonempty
            have first := List.length_pos_iff.mpr nonempty
            omega
          have left := ih others (shorter (by cases isGlyph <;> simp))
          rw [List.flatten_cons, List.append_assoc]
          cases isGlyph with
          | @plain b h =>
              simp only [isPlainByte, Bool.and_eq_true, decide_eq_true_eq] at h
              obtain ⟨⟨noQuote, noBackslash⟩, noControl⟩ := h
              rw [List.singleton_append, skipText, if_neg noQuote, if_neg noBackslash,
                if_neg (UInt8.not_lt.mpr noControl)]
              exact left
          | @letter l c h =>
              have noUnit : l ≠ Ascii.lowerU := by
                rintro rfl
                cases h
              simp only [List.cons_append, List.nil_append, skipText, if_neg noQuote, if_pos,
                skipEscape, if_neg noUnit, h, Option.isSome_some, bind, Except.bind]
              exact left
          | @unit digits unit h =>
              simp only [List.cons_append, skipText, if_neg noQuote, if_pos, skipEscape,
                hexUnit_digits h, Except.map, bind, Except.bind]
              exact left

end MuxConsole.Json
