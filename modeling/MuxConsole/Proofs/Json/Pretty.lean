import MuxConsole.Proofs.Json.RoundTrip

/-!
# Values survive their pretty form

The pretty form of a value is one of its texts as well: the line breaks and the indents
are blanks, before each item or member, between a name and its value, and after the last.
-/

namespace MuxConsole.Json

/-! ## Lines -/

def indent (depth : Nat) : Bytes := Utf8.encodeChars (newLine depth)

theorem isBlank_encodeChars_replicate (n : Nat) :
    IsBlank (Utf8.encodeChars (List.replicate n ' ')) := by
  induction n with
  | zero => exact isBlank_nil
  | succ n ih =>
      rw [List.replicate_succ, encodeChars_cons rfl]
      exact List.forall_mem_cons.mpr ⟨rfl, ih⟩

theorem isBlank_indent (depth : Nat) : IsBlank (indent depth) := by
  rw [indent, newLine, encodeChars_cons rfl]
  exact List.forall_mem_cons.mpr ⟨rfl, isBlank_encodeChars_replicate _⟩

def lineAfter (depth : Nat) (last : Bool) : Bytes := if last then indent depth else []

theorem isBlank_lineAfter (depth : Nat) (last : Bool) : IsBlank (lineAfter depth last) := by
  cases last with
  | true => exact isBlank_indent depth
  | false => exact isBlank_nil

section

variable {α β γ : Type} {f : Bool → α → β}

def markLast (f : Bool → α → β) : List α → List β
  | [] => []
  | [x] => [f true x]
  | x :: y :: rest => f false x :: markLast f (y :: rest)

theorem mem_markLast {xs : List α} {b : β} (hb : b ∈ markLast f xs) :
    ∃ last, ∃ x ∈ xs, f last x = b := by
  fun_induction markLast f xs with
  | case1 => cases hb
  | case2 x => exact ⟨true, x, List.mem_singleton_self x, (List.mem_singleton.mp hb).symm⟩
  | case3 x y rest ih =>
      rcases List.mem_cons.mp hb with rfl | later
      · exact ⟨false, x, List.mem_cons_self, rfl⟩
      · obtain ⟨last, z, hz, rfl⟩ := ih later
        exact ⟨last, z, List.mem_cons_of_mem x hz, rfl⟩

theorem map_markLast {g : β → α} (same : ∀ last x, g (f last x) = x) (xs : List α) :
    (markLast f xs).map g = xs := by
  fun_induction markLast f xs with
  | case1 => rfl
  | case2 x => rw [List.map_singleton, same]
  | case3 x y rest ih => rw [List.map_cons, same, ih]

theorem tailed_markLast (close : UInt8) (g : β → Bytes) (x : α) (rest : List α) :
    tailed close ((markLast f (x :: rest)).map g) =
      Ascii.comma :: enclosed close ((markLast f (x :: rest)).map g) := by
  cases rest <;> rfl

end

/-! ## Lists and objects -/

def prettied (depth : Nat) (j : Json) : Bytes := Utf8.encodeChars (renderPretty depth j)

def prettyItem (depth : Nat) (last : Bool) (j : Json) : Spaced Json where
  before := indent (depth + 1)
  text := prettied (depth + 1) j
  after := lineAfter depth last
  content := j
  blankBefore := isBlank_indent _
  blankAfter := isBlank_lineAfter _ _

def prettyMember (depth : Nat) (last : Bool) (member : String × Json) : Assigned Json where
  key :=
    { before := indent (depth + 1)
      text := Utf8.encodeChars (renderText member.1)
      after := []
      content := member.1
      blankBefore := isBlank_indent _
      blankAfter := isBlank_nil }
  value :=
    { before := Utf8.encodeChars [' ']
      text := prettied (depth + 1) member.2
      after := lineAfter depth last
      content := member.2
      blankBefore := isBlank_encodeChars_replicate 1
      blankAfter := isBlank_lineAfter _ _ }

theorem bytes_prettyItem (depth : Nat) (last : Bool) (j : Json) :
    (prettyItem depth last j).bytes =
      indent (depth + 1) ++ (prettied (depth + 1) j ++ lineAfter depth last) := rfl

theorem bytes_prettyMember (depth : Nat) (last : Bool) (key : String) (j : Json) :
    (prettyMember depth last (key, j)).bytes =
      indent (depth + 1) ++ (Utf8.encodeChars (renderText key) ++
        Ascii.colon :: Ascii.space :: (prettied (depth + 1) j ++ lineAfter depth last)) := by
  simp only [prettyMember, Assigned.bytes, Spaced.bytes, List.append_nil, List.append_assoc]
  rfl

theorem encodeChars_renderPrettyItems (depth : Nat) (item : Json) (rest : List Json) :
    indent (depth + 1) ++ Utf8.encodeChars (renderPrettyItems depth (item :: rest)) =
      enclosed Ascii.closeBracket
        ((markLast (prettyItem depth) (item :: rest)).map Spaced.bytes) := by
  induction rest generalizing item with
  | nil =>
      rw [renderPrettyItems, Utf8.encodeChars_append, Utf8.encodeChars_append, markLast,
        List.map_singleton, bytes_prettyItem, enclosed]
      simp only [List.append_assoc]
      rfl
  | cons next rest ih =>
      rw [renderPrettyItems, Utf8.encodeChars_append, encodeChars_cons rfl,
        Utf8.encodeChars_append, ← indent, ih, markLast, List.map_cons, bytes_prettyItem, enclosed,
        tailed_markLast]
      simp only [List.append_assoc]
      rfl

theorem encodeChars_renderPrettyMembers (depth : Nat) (member : String × Json)
    (rest : Members) :
    indent (depth + 1) ++ Utf8.encodeChars (renderPrettyMembers depth (member :: rest)) =
      enclosed Ascii.closeBrace
        ((markLast (prettyMember depth) (member :: rest)).map Assigned.bytes) := by
  induction rest generalizing member with
  | nil =>
      rw [renderPrettyMembers, Utf8.encodeChars_append, encodeChars_cons rfl, encodeChars_cons rfl,
        Utf8.encodeChars_append, Utf8.encodeChars_append, markLast, List.map_singleton,
        bytes_prettyMember, enclosed]
      simp only [List.append_assoc, List.cons_append]
      rfl
  | cons next rest ih =>
      rw [renderPrettyMembers, Utf8.encodeChars_append, encodeChars_cons rfl, encodeChars_cons rfl,
        Utf8.encodeChars_append, encodeChars_cons rfl, Utf8.encodeChars_append, ← indent, ih,
        markLast, List.map_cons, bytes_prettyMember, enclosed, tailed_markLast]
      simp only [List.append_assoc, List.cons_append]
      rfl

theorem prettied_list (depth : Nat) (items : List Json) :
    prettied depth (.list items) = Ascii.openBracket ::
      enclosed Ascii.closeBracket ((markLast (prettyItem depth) items).map Spaced.bytes) := by
  cases items with
  | nil => rfl
  | cons item rest =>
      rw [← encodeChars_renderPrettyItems, prettied, renderPretty, encodeChars_cons rfl,
        Utf8.encodeChars_append]
      rfl

theorem prettied_object (depth : Nat) (members : Members) :
    prettied depth (.object members) = Ascii.openBrace ::
      enclosed Ascii.closeBrace ((markLast (prettyMember depth) members).map Assigned.bytes) := by
  cases members with
  | nil => rfl
  | cons member rest =>
      rw [← encodeChars_renderPrettyMembers, prettied, renderPretty, encodeChars_cons rfl,
        Utf8.encodeChars_append]
      rfl

/-! ## Values -/

theorem denotes_prettied {level : Nat} {j : Json} (nested : Nested level j)
    (integral : Integral j) (depth : Nat) : Denotes level (prettied depth j) j := by
  induction nested generalizing depth with
  | null => exact .null
  | bool b => exact .bool b
  | number n =>
      cases integral with
      | number inRange => exact .number inRange
  | text s => exact .text (denotesText_renderText s)
  | @list level items _ ih =>
      cases integral with
      | list each =>
          have denotes : ∀ line ∈ markLast (prettyItem depth) items,
              Denotes level line.text line.content := by
            intro line hline
            obtain ⟨last, item, hitem, rfl⟩ := mem_markLast hline
            exact ih item hitem (each item hitem) (depth + 1)
          have list := Denotes.list isBlank_nil denotes
          rw [map_markLast fun _ _ => rfl] at list
          rw [prettied_list]
          exact list
  | @object level members distinct _ ih =>
      cases integral with
      | object each =>
          have keys : ∀ line ∈ markLast (prettyMember depth) members,
              DenotesText line.key.text line.key.content := by
            intro line hline
            obtain ⟨last, member, _, rfl⟩ := mem_markLast hline
            exact denotesText_renderText member.1
          have denotes : ∀ line ∈ markLast (prettyMember depth) members,
              Denotes level line.value.text line.value.content := by
            intro line hline
            obtain ⟨last, member, hmember, rfl⟩ := mem_markLast hline
            exact ih member hmember (each member hmember) (depth + 1)
          have object := Denotes.object isBlank_nil keys denotes
          rw [map_markLast fun _ _ => rfl, Members.collect_of_distinct distinct] at object
          rw [prettied_object]
          exact object

theorem isTextOf_pretty {j : Json} (nested : Nested greatestDepth j) (integral : Integral j) :
    IsTextOf (Utf8.encode (j.pretty ++ "\n")) j := by
  refine ⟨⟨[], prettied 0 j, Utf8.encodeChars ['\n'], j, isBlank_nil, ?_⟩, ?_, rfl,
    denotes_prettied nested integral 0⟩
  · exact List.forall_mem_cons.mpr ⟨rfl, isBlank_nil⟩
  · rw [Utf8.encode, pretty, String.toList_append, String.toList_ofList, Utf8.encodeChars_append]
    rfl

end MuxConsole.Json
