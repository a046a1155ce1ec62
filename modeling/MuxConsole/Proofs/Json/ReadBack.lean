import MuxConsole.Proofs.Json.Records
import MuxConsole.Proofs.Json.RoundTrip

/-!
# Values that are read back

What an integer of at most 64 bits is read as is read back from what it is rendered as,
even a zero with a minus, which is a double.  So are texts, and objects of what is read
back, as values and as tables.
-/

namespace MuxConsole

/-- What an integer of at most 64 bits is read as; a zero may have a minus. -/
def Number.IsInteger : Number → Prop
  | .whole .. => True
  | .double d => d = Decimal.Double.zero.neg

namespace Json

open Decimal

/-! ## Minus zero -/

def minusZero : Bytes := [Ascii.minus, Ascii.zero, Ascii.dot, Ascii.zero]

theorem rendered_minusZero : rendered (.number (.double Double.zero.neg)) = minusZero := by
  decide +kernel

theorem isNumeral_minusZero : IsNumeral minusZero :=
  ⟨[Ascii.minus], [Ascii.zero], [Ascii.dot, Ascii.zero], [], rfl, by simp, .zero,
    .some ⟨List.cons_ne_nil _ _, List.forall_mem_singleton.mpr rfl⟩, .none⟩

theorem value_minusZero :
    Numeral.value ⟨true, [Ascii.zero], [Ascii.zero], none⟩ = .ok (.double Double.zero.neg) := by
  have magnitude : Numeral.magnitude ⟨true, [Ascii.zero], [Ascii.zero], none⟩ =
      some Double.zero := by decide +kernel
  rw [Numeral.value, magnitude]
  rfl

theorem scanHead_minusZero :
    scanHead minusZero = .ok (.number (.double Double.zero.neg), []) := by
  change (Numeral.value ⟨true, [Ascii.zero], [Ascii.zero], none⟩ >>= fun n =>
    Except.ok (n, [])) >>= _ = _
  rw [value_minusZero]
  rfl

variable {depth : Nat}

theorem gives_minusZero :
    Gives (value depth) minusZero (.ok (.number (.double Double.zero.neg))) := by
  obtain ⟨result, scans⟩ := isNumeral_minusZero.exists_scans
  have alone := scans.2 [] nofun
  rw [List.append_nil, scanHead_minusZero] at alone
  cases result with
  | error problem => cases alone
  | ok j =>
      cases j with
      | number n =>
          cases alone
          exact gives_of_scans scans
      | _ => cases alone

/-! ## What is rendered is read -/

def IsReadBack (depth : Nat) (j : Json) : Prop := Gives (value depth) (rendered j) (.ok j)

theorem isReadBack_text (s : String) : IsReadBack depth (.text s) :=
  gives_of_denotes (.text (denotesText_renderText s))

theorem isReadBack_number {n : Number} (integer : n.IsInteger) : IsReadBack depth (.number n) := by
  cases n with
  | whole n inRange => exact gives_of_denotes (.number inRange)
  | double d =>
      cases integer
      rw [IsReadBack, rendered_minusZero]
      exact gives_minusZero

theorem rendered_members (members : Members) : rendered (.object members) =
    Ascii.openBrace :: ([] ++ enclosed Ascii.closeBrace (members.map fun member =>
      assigned (tightMember member).key (tightMember member).value)) := by
  rw [rendered_object, List.nil_append, ← map_bytes_tightMember, List.map_map]
  rfl

theorem spells_tightMember (member : String × Json) :
    Spells (tightMember member).key.text (.ok member.1) :=
  spells_of_denotes (denotesText_renderText member.1)

theorem mapM_both (members : Members) :
    members.mapM (fun member => both (.ok member.1) (.ok member.2)) = .ok members := by
  have same := mapM_ok (ε := Problem) id members
  rwa [List.map_id] at same

section

variable {members : Members} (each : ∀ member ∈ members, IsReadBack depth member.2)

include each

theorem isReadBack_object (distinct : members.names.Nodup) :
    IsReadBack (depth + 1) (.object members) := by
  have gives := gives_object (fun member => (tightMember member).key)
    (fun member => (tightMember member).value) (fun member _ => spells_tightMember member) each
    (List.forall_mem_nil _)
  rw [← rendered_members, mapM_both] at gives
  rw [IsReadBack]
  simpa only [Except.map, Members.collect_of_distinct distinct] using gives

theorem gives_table_rendered : Gives ((Schema.table .json).fromText (depth + 1))
    (rendered (.object members)) (.ok (KeyTable.ofList members)) := by
  have gives := Schema.gives_table (fun member => (tightMember member).key)
    (fun member => (tightMember member).value) (fun member _ => spells_tightMember member)
    (fun member h => Schema.gives_json (each member h)) (List.forall_mem_nil _)
  rw [← rendered_members, mapM_both] at gives
  exact gives

end

end Json

end MuxConsole
