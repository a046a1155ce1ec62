import MuxConsole.Config.View
import MuxConsole.Proofs.Json.Written

/-!
# Records of a configuration are read back

Each field of such a record holds a text of its own, so the record is read back from what it
is written as.
-/

namespace MuxConsole.Config

open Json

namespace Layout

variable {ρ : Type}

def texts (layout : Layout ρ) : List (TextField ρ) :=
  layout.fields.map fun field => ⟨field.key, field.get, field.set⟩

theorem parse_toJson {layout : Layout ρ} (lawful : TextField.Lawful layout.texts) (record : ρ) :
    layout.schema.parse (Utf8.encode (layout.toJson record).compact) = .ok record := by
  have schema : layout.schema = .record layout.type layout.start
      (TextField.slots (fun _ => true) layout.texts) := by
    rw [TextField.slots, texts, List.map_map]
    rfl
  have written : layout.toJson record = .object (TextField.members layout.texts record) := by
    rw [TextField.members, texts, List.map_map]
    rfl
  rw [schema, written]
  exact Schema.parse_compact (lawful.gives_members _ _ _ _ _)

end Layout

theorem Service.lawful : TextField.Lawful layout.texts where
  distinct := by decide
  own := by simp [Layout.texts, layout, options]
  other := by simp [Layout.texts, layout, options]
  ext left right same := by
    cases left
    cases right
    simp_all [Layout.texts, layout, options]

theorem Subchannel.lawful : TextField.Lawful layout.texts where
  distinct := by decide
  own := by simp [Layout.texts, layout, options]
  other := by simp [Layout.texts, layout, options]
  ext left right same := by
    cases left
    cases right
    simp_all [Layout.texts, layout, options]

theorem Component.lawful : TextField.Lawful layout.texts where
  distinct := by decide
  own := by simp [Layout.texts, layout, options]
  other := by simp [Layout.texts, layout, options]
  ext left right same := by
    cases left
    cases right
    simp_all [Layout.texts, layout, options]

theorem General.lawful : TextField.Lawful layout.texts where
  distinct := by decide
  own := by simp [Layout.texts, layout, options, remoteOptions]
  other := by simp [Layout.texts, layout, options, remoteOptions]
  ext left right same := by
    cases left
    cases right
    simp_all [Layout.texts, layout, options, remoteOptions]

end MuxConsole.Config
