import MuxConsole.Proofs.Json.Reading

/-!
# Values survive their rendering

What a value is rendered as is one of its texts, if no object in it has a name twice
and every number in it is whole.  So it is read back as it was, with its members in
their order.
-/

namespace MuxConsole.Json

/-! ## Lists and objects -/

def rendered (j : Json) : Bytes := Utf8.encodeChars (render j)

theorem encode_compact (j : Json) : Utf8.encode j.compact = rendered j := by
  rw [Utf8.encode, compact, String.toList_ofList, rendered]

def renderedMember (member : String × Json) : Bytes :=
  Utf8.encodeChars (renderText member.1) ++ Ascii.colon :: rendered member.2

theorem encodeChars_cons {c : Char} {b : UInt8} (h : Utf8.encodeChars [c] = [b])
    (text : List Char) : Utf8.encodeChars (c :: text) = b :: Utf8.encodeChars text := by
  rw [← List.singleton_append, Utf8.encodeChars_append, h, List.singleton_append]

theorem encodeChars_renderItems (items : List Json) :
    Utf8.encodeChars (renderItems items) =
      enclosed Ascii.closeBracket (items.map rendered) := by
  induction items with
  | nil => rfl
  | cons item rest ih =>
      cases rest with
      | nil =>
          rw [renderItems, Utf8.encodeChars_append]
          rfl
      | cons next rest =>
          rw [renderItems, Utf8.encodeChars_append, encodeChars_cons rfl, ih]
          rfl

theorem encodeChars_renderMembers (members : Members) :
    Utf8.encodeChars (renderMembers members) =
      enclosed Ascii.closeBrace (members.map renderedMember) := by
  induction members with
  | nil => rfl
  | cons member rest ih =>
      cases rest with
      | nil =>
          rw [renderMembers, Utf8.encodeChars_append, encodeChars_cons rfl,
            Utf8.encodeChars_append]
          exact (List.append_assoc _ (Ascii.colon :: rendered member.2) _).symm
      | cons next rest =>
          rw [renderMembers, Utf8.encodeChars_append, encodeChars_cons rfl,
            Utf8.encodeChars_append, encodeChars_cons rfl, ih]
          exact (List.append_assoc _ (Ascii.colon :: rendered member.2) _).symm

theorem rendered_list (items : List Json) :
    rendered (.list items) =
      Ascii.openBracket :: enclosed Ascii.closeBracket (items.map rendered) := by
  rw [rendered, render, encodeChars_cons rfl, encodeChars_renderItems]
  rfl

theorem rendered_object (members : Members) :
    rendered (.object members) =
      Ascii.openBrace :: enclosed Ascii.closeBrace (members.map renderedMember) := by
  rw [rendered, render, encodeChars_cons rfl, encodeChars_renderMembers]
  rfl

def tightItem (j : Json) : Spaced Json := .tight (rendered j) j

def tightMember (member : String × Json) : Assigned Json where
  key := .tight (Utf8.encodeChars (renderText member.1)) member.1
  value := tightItem member.2

theorem map_bytes_tightItem (items : List Json) :
    (items.map tightItem).map Spaced.bytes = items.map rendered := by
  rw [List.map_map]
  exact List.map_congr_left fun j _ => Spaced.bytes_tight (rendered j) j

theorem map_content_tightItem (items : List Json) :
    (items.map tightItem).map Spaced.content = items := by
  rw [List.map_map]
  exact List.map_id items

theorem map_bytes_tightMember (members : Members) :
    (members.map tightMember).map Assigned.bytes = members.map renderedMember := by
  rw [List.map_map]
  refine List.map_congr_left fun member _ => ?_
  change Spaced.bytes (.tight _ _) ++ Ascii.colon :: Spaced.bytes (.tight _ _) = _
  rw [Spaced.bytes_tight, Spaced.bytes_tight, renderedMember]

theorem map_content_tightMember (members : Members) :
    (members.map tightMember).map Assigned.content = members := by
  rw [List.map_map]
  exact List.map_id members

/-! ## Values -/

theorem denotes_rendered {depth : Nat} {j : Json} (nested : Nested depth j)
    (integral : Integral j) : Denotes depth (rendered j) j := by
  induction nested with
  | null => exact .null
  | bool b => exact .bool b
  | number n =>
      cases integral with
      | number inRange => exact .number inRange
  | text s => exact .text (denotesText_renderText s)
  | @list depth items _ ih =>
      cases integral with
      | list each =>
          have denotes : ∀ item ∈ items.map tightItem, Denotes depth item.text item.content := by
            intro tight htight
            obtain ⟨item, hitem, rfl⟩ := List.mem_map.mp htight
            exact ih item hitem (each item hitem)
          have list := Denotes.list (List.forall_mem_nil _) denotes
          rw [map_bytes_tightItem, map_content_tightItem] at list
          rw [rendered_list]
          exact list
  | @object depth members distinct _ ih =>
      cases integral with
      | object each =>
          have keys : ∀ member ∈ members.map tightMember,
              DenotesText member.key.text member.key.content := by
            intro tight htight
            obtain ⟨member, _, rfl⟩ := List.mem_map.mp htight
            exact denotesText_renderText member.1
          have denotes : ∀ member ∈ members.map tightMember,
              Denotes depth member.value.text member.value.content := by
            intro tight htight
            obtain ⟨member, hmember, rfl⟩ := List.mem_map.mp htight
            exact ih member hmember (each member hmember)
          have object := Denotes.object (List.forall_mem_nil _) keys denotes
          rw [map_bytes_tightMember, map_content_tightMember,
            Members.collect_of_distinct distinct] at object
          rw [rendered_object]
          exact object

theorem isTextOf_rendered {j : Json} (nested : Nested greatestDepth j) (integral : Integral j) :
    IsTextOf (rendered j) j :=
  ⟨tightItem j, Spaced.bytes_tight _ _, rfl, denotes_rendered nested integral⟩

end MuxConsole.Json
