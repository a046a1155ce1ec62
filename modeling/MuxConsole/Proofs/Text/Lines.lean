import Mathlib.Data.List.Infix
import MuxConsole.Text.Lines

/-!
# Reading lines

Every line ends in a newline, and what stands after the last newline is a line if there
is anything.  A text that has been made of lines is read as the pieces of these lines
between the newlines in them, so lines without newlines are read as they are.
-/

namespace MuxConsole.Text

abbrev IsLine (text : String) : Prop := '\n' ∉ text.toList

def pieces (text : String) : List String := (text.toList.splitOn '\n').map String.ofList

def lines (text : String) : List String :=
  if (pieces text).getLast? = some "" then (pieces text).dropLast else pieces text

/-! ## Lines that have been written -/

theorem pieces_of_isLine {text : String} (h : IsLine text) : pieces text = [text] := by
  rw [pieces, List.splitOn_eq_singleton h, List.map_singleton, String.ofList_toList]

theorem pieces_append_newline (first rest : String) :
    pieces (first ++ "\n" ++ rest) = pieces first ++ pieces rest := by
  have chars : (first ++ "\n" ++ rest).toList = first.toList ++ '\n' :: rest.toList := by
    simp
  rw [pieces, chars, List.splitOn_append_cons_self, List.map_append]
  rfl

theorem unlines_cons (line : String) (rest : List String) :
    unlines (line :: rest) = line ++ "\n" ++ unlines rest := by
  rw [unlines, List.map_cons, String.join_cons]
  rfl

theorem pieces_unlines (written : List String) :
    pieces (unlines written) = written.flatMap pieces ++ [""] := by
  induction written with
  | nil => rfl
  | cons line rest ih =>
      rw [unlines_cons, pieces_append_newline, ih, List.flatMap_cons, List.append_assoc]

theorem lines_unlines (written : List String) :
    lines (unlines written) = written.flatMap pieces := by
  rw [lines, pieces_unlines, List.getLast?_concat, if_pos rfl, List.dropLast_concat]

theorem flatMap_pieces {written : List String} (h : ∀ line ∈ written, IsLine line) :
    written.flatMap pieces = written := by
  induction written with
  | nil => rfl
  | cons line rest ih =>
      obtain ⟨first, others⟩ := List.forall_mem_cons.mp h
      rw [List.flatMap_cons, pieces_of_isLine first, ih others, List.singleton_append]

theorem lines_unlines_of_isLine {written : List String} (h : ∀ line ∈ written, IsLine line) :
    lines (unlines written) = written := by
  rw [lines_unlines, flatMap_pieces h]

/-! ## Texts without newlines -/

theorem isLine_ofList {chars : List Char} (h : '\n' ∉ chars) : IsLine (String.ofList chars) := by
  rwa [IsLine, String.toList_ofList]

theorem isLine_append {first second : String} :
    IsLine (first ++ second) ↔ IsLine first ∧ IsLine second := by
  simp [IsLine]

theorem isLine_ofList_append {chars : List Char} (first : '\n' ∉ chars) {rest : String}
    (last : IsLine rest) : IsLine (String.ofList chars ++ rest) :=
  isLine_append.mpr ⟨isLine_ofList first, last⟩

theorem isLine_intercalate {sep : String} (apart : IsLine sep) {texts : List String}
    (h : ∀ text ∈ texts, IsLine text) : IsLine (sep.intercalate texts) := by
  induction texts with
  | nil => exact isLine_ofList List.not_mem_nil
  | cons text rest ih =>
      obtain ⟨first, others⟩ := List.forall_mem_cons.mp h
      by_cases last : rest = []
      · rwa [last, String.intercalate_singleton]
      · rw [String.intercalate_cons_of_ne_nil last, isLine_append, isLine_append]
        exact ⟨⟨first, apart⟩, ih others⟩

/-! ## Words at the beginning -/

def after? (word text : String) : Option String :=
  (word.toList.isPrefixOf? text.toList).map String.ofList

@[simp] theorem after?_append (word rest : String) : after? word (word ++ rest) = some rest := by
  have begins : word.toList.isPrefixOf? (word ++ rest).toList = some rest.toList :=
    List.isPrefixOf?_eq_some_iff_append_eq.mpr String.toList_append.symm
  rw [after?, begins, Option.map_some, String.ofList_toList]

theorem eq_append_of_after? {word text rest : String} (h : after? word text = some rest) :
    text = word ++ rest := by
  obtain ⟨chars, begins, rfl⟩ := Option.map_eq_some_iff.mp h
  apply String.toList_injective
  rw [String.toList_append, String.toList_ofList]
  exact (List.isPrefixOf?_eq_some_iff_append_eq.mp begins).symm

theorem after?_eq_none {word text : String} (h : ¬ word.toList <+: text.toList) :
    after? word text = none := by
  cases found : after? word text with
  | none => rfl
  | some rest =>
      rw [eq_append_of_after? found, String.toList_append] at h
      exact absurd (List.prefix_append _ _) h

theorem after?_of_apart {word : String} {other : List Char}
    (apart : ¬ word.toList <+: other ∧ ¬ other <+: word.toList) (rest : String) :
    after? word (String.ofList other ++ rest) = none := by
  apply after?_eq_none
  rw [String.toList_append, String.toList_ofList]
  intro begins
  rcases List.prefix_or_prefix_of_prefix begins (List.prefix_append _ _) with h | h
  · exact apart.1 h
  · exact apart.2 h

end MuxConsole.Text
