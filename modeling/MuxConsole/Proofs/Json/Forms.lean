import MuxConsole.Proofs.Json.RoundTrip
import MuxConsole.Proofs.Json.Steady

/-!
# What denotes a value has the form of JSON

The texts of a value are among the JSON texts, and so is what is rendered.  A scalar is
read the same however deep it stands.
-/

namespace MuxConsole.Json

/-! ## Texts in quotes -/

theorem DenotesChar.glyphs {body : Bytes} {c : Char} (denotes : DenotesChar body c) :
    ∃ glyphs : List Bytes, (∀ glyph ∈ glyphs, IsGlyph glyph) ∧ glyphs.flatten = body := by
  cases denotes with
  | plain noQuote noBackslash noControl =>
      refine ⟨(String.utf8EncodeChar c).map ([·]), List.forall_mem_map.mpr fun b isByte => ?_,
        (List.flatMap_def).symm.trans (List.flatMap_singleton' _)⟩
      exact .plain (isPlainByte_of_mem noQuote noBackslash noControl isByte)
  | letter h =>
      have glyph := IsGlyph.letter (escapeLetter_of_mem _ h)
      exact ⟨_, List.forall_mem_singleton.mpr glyph, List.flatten_singleton⟩
  | unit h => exact ⟨_, List.forall_mem_singleton.mpr (.unit h), List.flatten_singleton⟩
  | pair _ first second =>
      refine ⟨_, List.forall_mem_cons.mpr
        ⟨.unit first, List.forall_mem_singleton.mpr (.unit second)⟩, ?_⟩
      rw [List.flatten_cons, List.flatten_singleton, List.cons_append, List.cons_append]

theorem DenotesChars.glyphs {body : Bytes} {chars : List Char}
    (denotes : DenotesChars body chars) :
    ∃ glyphs : List Bytes, (∀ glyph ∈ glyphs, IsGlyph glyph) ∧ glyphs.flatten = body := by
  induction denotes with
  | nil => exact ⟨[], List.forall_mem_nil _, rfl⟩
  | cons first _ ih =>
      obtain ⟨glyphs, each, rfl⟩ := first.glyphs
      obtain ⟨more, eachMore, rfl⟩ := ih
      exact ⟨glyphs ++ more, List.forall_mem_append.mpr ⟨each, eachMore⟩, List.flatten_append⟩

theorem DenotesText.isQuoted {quoted : Bytes} {s : String} (denotes : DenotesText quoted s) :
    IsQuoted quoted := by
  obtain ⟨body, chars, rfl⟩ := denotes
  obtain ⟨glyphs, each, rfl⟩ := chars.glyphs
  exact ⟨glyphs, each, rfl⟩

/-! ## Values -/

def Spaced.bare {α : Type} (spaced : Spaced α) : Spaced Unit := { spaced with content := () }

theorem Denotes.isJson {depth : Nat} {text : Bytes} {j : Json} (denotes : Denotes depth text j) :
    IsJson text := by
  induction denotes with
  | null => exact .null
  | bool b => exact .bool b
  | number => exact .number (isNumeral_renderWhole _)
  | text h => exact .text h.isQuoted
  | @list _ _ items blank _ ih =>
      have each : ∀ item ∈ items.map Spaced.bare, IsJson item.text := List.forall_mem_map.mpr ih
      have list := IsJson.list blank each
      rw [List.map_map] at list
      exact list
  | @object _ _ members blank keys _ ih =>
      have quoted : ∀ member ∈ members.map fun member => (member.key.bare, member.value.bare),
          IsQuoted member.1.text := List.forall_mem_map.mpr fun member h => (keys member h).isQuoted
      have each : ∀ member ∈ members.map fun member => (member.key.bare, member.value.bare),
          IsJson member.2.text := List.forall_mem_map.mpr ih
      have object := IsJson.object blank quoted each
      rw [List.map_map] at object
      exact object

theorem isJson_rendered {depth : Nat} {j : Json} (nested : Nested depth j)
    (integral : Integral j) : IsJson (rendered j) :=
  (denotes_rendered nested integral).isJson

theorem IsJson.outcome_of_parse {text : Bytes} (h : IsJson text) {j : Json}
    (read : parse text = .ok j) (noList : ∀ items, j ≠ .list items)
    (noObject : ∀ members, j ≠ .object members) (depth : Nat) :
    outcome (value depth) text = .ok j := by
  have alone {result : Except Problem Json} (gives : Gives (value greatestDepth) text result) :
      result = .ok j := by
    rw [← read, ← Spaced.bytes_tight text ()]
    exact (whole_of_gives gives).symm
  rcases h.shape with ⟨result, scans⟩ | ⟨blanks, items, blank, each, rfl⟩ |
    ⟨blanks, members, blank, each, rfl⟩
  · rw [(gives_of_scans scans).outcome_eq]
    exact alone (gives_of_scans scans)
  · have found := alone (gives_list (fun item h => (each item h).steady _)
      (fun item h => (each item h).beginsItem) blank)
    obtain ⟨items, -, rfl⟩ := exists_of_map_ok found
    exact absurd rfl (noList items)
  · have found := alone (gives_object Prod.fst Prod.snd (fun member h => (each member h).1.spells)
      (fun member h => (each member h).2.steady _) blank)
    obtain ⟨members, -, rfl⟩ := exists_of_map_ok found
    exact absurd rfl (noObject _)

end MuxConsole.Json
