import Mathlib.Data.List.Induction
import Mathlib.Data.List.TakeWhile
import Mathlib.Data.Nat.Digits.Defs
import MuxConsole.Input.State

/-!
# What is read as a state

A report is a word, a blank and a code in brackets, with anything after it.  The
word and the digits are the longest runs, but neither can be any longer or shorter,
so a report can be taken apart in one way only.  The code is kept in a byte: digits
that go beyond it have no value, where they could have wrapped around.
-/

namespace MuxConsole.Input.State

/-! ## Runs of characters -/

section

variable {α : Type} {p : α → Bool} {run rest : List α} {stop : α}

theorem takeWhile_run (all : ∀ x ∈ run, p x = true) (stops : p stop = false) :
    (run ++ stop :: rest).takeWhile p = run := by
  rw [List.takeWhile_append_of_pos all]
  simp [stops]

theorem dropWhile_run (all : ∀ x ∈ run, p x = true) (stops : p stop = false) :
    (run ++ stop :: rest).dropWhile p = stop :: rest := by
  rw [List.dropWhile_append_of_pos all]
  simp [stops]

theorem forall_of_takeWhile_eq {input : List α} (h : input.takeWhile p = run) :
    ∀ x ∈ run, p x = true := by
  intro x hx
  rw [← h] at hx
  exact List.mem_takeWhile_imp hx

end

/-! ## The parts of a report -/

theorem codeDigits?_of_parts {word digits rest : List Char} (hword : word ≠ [])
    (isWord : ∀ c ∈ word, Text.isWord c = true) (hdigits : digits ≠ [])
    (isDigit : ∀ c ∈ digits, Text.isDigit c = true) :
    codeDigits? (word ++ ' ' :: '(' :: (digits ++ ')' :: rest)) = some digits := by
  have blank : Text.isWord ' ' = false := by decide +kernel
  have bracket : Text.isDigit ')' = false := by decide +kernel
  obtain ⟨c, word, rfl⟩ := List.exists_cons_of_ne_nil hword
  obtain ⟨d, digits, rfl⟩ := List.exists_cons_of_ne_nil hdigits
  simp only [codeDigits?, takeWhile_run isWord blank, dropWhile_run isWord blank,
    takeWhile_run isDigit bracket, dropWhile_run isDigit bracket]

theorem parts_of_codeDigits? {report digits : List Char} (h : codeDigits? report = some digits) :
    ∃ word rest, report = word ++ ' ' :: '(' :: (digits ++ ')' :: rest) ∧ word ≠ [] ∧
      (∀ c ∈ word, Text.isWord c = true) ∧ digits ≠ [] := by
  unfold codeDigits? at h
  split at h
  · rename_i c word inner hword hinner
    split at h
    · rename_i d more rest hdigits hrest
      cases h
      refine ⟨c :: word, rest, ?_, by simp, forall_of_takeWhile_eq hword, by simp⟩
      rw [← hdigits, ← hrest, List.takeWhile_append_dropWhile, ← hinner, ← hword,
        List.takeWhile_append_dropWhile]
    · cases h
  · cases h

/-! ## The code -/

def digitOf (c : Char) : Nat := c.toNat - '0'.toNat

def value (digits : List Char) : Nat := Nat.ofDigits 10 (digits.reverse.map digitOf)

theorem value_concat (digits : List Char) (c : Char) :
    value (digits ++ [c]) = 10 * value digits + digitOf c := by
  simp [value, Nat.ofDigits_cons]
  omega

theorem isDigit_of_ascii {c : Char} (h : c.isDigit = true) : Text.isDigit c = true := by
  rw [Char.isDigit, Bool.and_eq_true, decide_eq_true_eq, decide_eq_true_eq] at h
  have low : 0x30 ≤ c.toNat := h.1
  have high : c.toNat ≤ 0x39 := h.2
  simp [Text.isDigit, Text.Ranges.contains, Text.digitRanges, low, high]

theorem appendDigit?_eq_some_iff {n code : UInt8} {c : Char} :
    appendDigit? n c = some code ↔
      c.isDigit = true ∧ 10 * n.toNat + digitOf c = code.toNat := by
  change (if c.isDigit then
    if 10 * n.toNat + digitOf c < 0x100 then some (UInt8.ofNat (10 * n.toNat + digitOf c))
    else none else none) = _ ↔ _
  by_cases digit : c.isDigit
  · by_cases fits : 10 * n.toNat + digitOf c < 0x100
    · rw [if_pos digit, if_pos fits, Option.some_inj, ← UInt8.toNat_inj, UInt8.toNat_ofNat',
        Nat.mod_eq_of_lt fits]
      simp [digit]
    · have high := code.toNat_lt
      rw [if_pos digit, if_neg fits]
      simp
      omega
  · simp [digit]

theorem byte?_eq_some_iff {digits : List Char} {code : UInt8} :
    byte? digits = some code ↔
      (∀ c ∈ digits, c.isDigit = true) ∧ value digits = code.toNat := by
  induction digits using List.reverseRecOn generalizing code with
  | nil =>
      simp [byte?, value, ← UInt8.toNat_inj]
  | append_singleton digits c ih =>
      rw [byte?, List.foldlM_append, ← byte?]
      constructor
      · intro h
        obtain ⟨n, hn, hlast⟩ := Option.bind_eq_some_iff.mp h
        obtain ⟨digit, last⟩ := appendDigit?_eq_some_iff.mp (by simpa using hlast)
        obtain ⟨all, before⟩ := ih.mp hn
        refine ⟨?_, ?_⟩
        · simpa [or_imp, forall_and, digit] using all
        · rw [value_concat, before, last]
      · rintro ⟨all, total⟩
        rw [value_concat] at total
        have high := code.toNat_lt
        have before : value digits = (UInt8.ofNat (value digits)).toNat := by
          rw [UInt8.toNat_ofNat', Nat.mod_eq_of_lt (by omega)]
        have hn := ih.mpr ⟨fun d hd => all d (by simp [hd]), before⟩
        have hlast : appendDigit? (UInt8.ofNat (value digits)) c = some code := by
          apply appendDigit?_eq_some_iff.mpr
          exact ⟨all c (by simp), by rw [← before, total]⟩
        simp [hn, hlast]

@[simp] theorem ofCode?_eq_some_iff {n : Nat} {s : State} : ofCode? n = some s ↔ n = s.code := by
  constructor
  · intro h
    unfold ofCode? at h
    split at h <;> cases h <;> rfl
  · rintro rfl
    exact ofCode?_code s

theorem code_le (s : State) : s.code ≤ 4 := by
  cases s <;> decide

theorem exists_code_eq : ∀ n < 5, ∃ s ∈ all, s.code = n := by
  decide

/-! ## Reports -/

/-- The report consists of a word, a code in brackets and whatever comes after. -/
structure IsReport (report word digits rest : String) : Prop where
  text : report = word ++ " (" ++ digits ++ ")" ++ rest
  word_ne : word ≠ ""
  isWord : ∀ c ∈ word.toList, Text.isWord c = true
  digits_ne : digits ≠ ""
  isDigit : ∀ c ∈ digits.toList, c.isDigit = true

variable {report word digits rest : String}

theorem toList_report :
    (word ++ " (" ++ digits ++ ")" ++ rest).toList =
      word.toList ++ ' ' :: '(' :: (digits.toList ++ ')' :: rest.toList) := by
  simp

theorem IsReport.codeDigits? (h : IsReport report word digits rest) :
    codeDigits? report.toList = some digits.toList := by
  rw [h.text, toList_report]
  apply codeDigits?_of_parts
  · simpa using h.word_ne
  · exact h.isWord
  · simpa using h.digits_ne
  · exact fun c hc => isDigit_of_ascii (h.isDigit c hc)

theorem decode?_eq_some_iff {s : State} :
    decode? report = some s ↔
      ∃ word digits rest, IsReport report word digits rest ∧ value digits.toList = s.code := by
  constructor
  · intro h
    obtain ⟨digits, hdigits, h⟩ := Option.bind_eq_some_iff.mp h
    obtain ⟨code, hcode, hs⟩ := Option.bind_eq_some_iff.mp h
    obtain ⟨word, rest, parts, word_ne, isWord, digits_ne⟩ := parts_of_codeDigits? hdigits
    obtain ⟨isDigit, hvalue⟩ := byte?_eq_some_iff.mp hcode
    refine ⟨String.ofList word, String.ofList digits, String.ofList rest, ?_, ?_⟩
    · constructor
      · rw [← String.toList_inj, toList_report]
        simpa using parts
      all_goals simpa
    · rw [String.toList_ofList, hvalue, ofCode?_eq_some_iff.mp hs]
  · rintro ⟨word, digits, rest, written, hvalue⟩
    have small : s.code < 0x100 := Nat.lt_of_le_of_lt (code_le s) (by decide)
    have same : (UInt8.ofNat s.code).toNat = s.code := by
      rw [UInt8.toNat_ofNat', Nat.mod_eq_of_lt small]
    have hcode := byte?_eq_some_iff.mpr ⟨written.isDigit, hvalue.trans same.symm⟩
    simp [decode?, written.codeDigits?, hcode, same]

theorem isReport_display (s : State) (rest : String) :
    IsReport (s.display ++ rest) s.name (toString s.code) rest where
  text := by cases s <;> rfl
  word_ne := by cases s <;> decide
  isWord := List.all_eq_true.mp (by cases s <;> rfl)
  digits_ne := by cases s <;> decide
  isDigit := List.all_eq_true.mp (by cases s <;> rfl)

theorem value_code (s : State) : value (toString s.code).toList = s.code := by
  cases s <;> decide

/-- A text is read as a state if it is a report of its code, in digits of any number,
and as nothing if it is no report at all or one of a code beyond the states.  What a
state is displayed as is a report of it. -/
theorem decode_exactly_reports (report : String) :
    (∀ s, decode? report = some s ↔
      ∃ word digits rest, IsReport report word digits rest ∧ value digits.toList ≤ 4 ∧
        s.code = value digits.toList) ∧
    (decode? report = none ↔
      ¬ ∃ word digits rest, IsReport report word digits rest ∧ value digits.toList ≤ 4) ∧
    (∀ word digits rest, IsReport report word digits rest → 4 < value digits.toList →
      decode? report = none) ∧
    ∀ s rest, decode? (display s ++ rest) = some s := by
  refine ⟨?known, ?unknown, ?beyond, ?displayed⟩
  case known =>
    intro s
    rw [decode?_eq_some_iff]
    constructor
    · rintro ⟨word, digits, rest, written, code⟩
      exact ⟨word, digits, rest, written, code ▸ code_le s, code.symm⟩
    · rintro ⟨word, digits, rest, written, -, code⟩
      exact ⟨word, digits, rest, written, code.symm⟩
  case unknown =>
    constructor
    · rintro none ⟨word, digits, rest, written, small⟩
      obtain ⟨s, -, code⟩ := exists_code_eq _ (Nat.lt_succ_of_le small)
      have read := decode?_eq_some_iff.mpr ⟨word, digits, rest, written, code.symm⟩
      rw [none] at read
      cases read
    · intro noReport
      apply Option.eq_none_iff_forall_ne_some.mpr
      intro s read
      obtain ⟨word, digits, rest, written, code⟩ := decode?_eq_some_iff.mp read
      exact noReport ⟨word, digits, rest, written, code ▸ code_le s⟩
  case beyond =>
    intro word digits rest written large
    apply Option.eq_none_iff_forall_ne_some.mpr
    intro s read
    obtain ⟨word', digits', rest', written', code⟩ := decode?_eq_some_iff.mp read
    -- The digits are the same ones, however the report is taken apart.
    have same := written.codeDigits?.symm.trans written'.codeDigits?
    rw [Option.some_inj] at same
    rw [same, code] at large
    exact absurd (code_le s) (by omega)
  case displayed =>
    intro s rest
    exact decode?_eq_some_iff.mpr ⟨_, _, rest, isReport_display s rest, value_code s⟩

end MuxConsole.Input.State
