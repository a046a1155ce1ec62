import MuxConsole.Identity
import MuxConsole.Remote.Module
import MuxConsole.Proofs.Config.Fields
import MuxConsole.Proofs.Input.Stat
import MuxConsole.Proofs.Settings

/-!
# Records are read back

Whatever the console keeps or sends as JSON is read back from the compact text it is
written as, with any characters in its texts and any words in its numbers.  Only the decoded
state of an input is not written, so it is not read.
-/

namespace MuxConsole

open Json

/-! ## Identities -/

namespace Identity

def texts : List (TextField Identity) := [
  ⟨"service", service, fun service identity => { identity with service }⟩,
  ⟨"version", version, fun version identity => { identity with version }⟩]

theorem lawful : TextField.Lawful texts where
  distinct := by decide
  own := by simp [texts]
  other := by simp [texts]
  ext left right same := by
    cases left
    cases right
    simp_all [texts]

theorem parse_toJson (identity : Identity) :
    schema.parse (Utf8.encode identity.toJson.compact) = .ok identity :=
  Schema.parse_compact (lawful.gives_members (· = "service") "ServiceIdentity" ⟨"", unknownText⟩
    identity _)

end Identity

/-! ## Remote control modules -/

namespace Remote

namespace Parameter

def texts : List (TextField Parameter) := [
  ⟨"name", name, fun name parameter => { parameter with name }⟩,
  ⟨"value", value, fun value parameter => { parameter with value }⟩]

theorem lawful : TextField.Lawful texts where
  distinct := by decide
  own := by simp [texts]
  other := by simp [texts]
  ext left right same := by
    cases left
    cases right
    simp_all [texts]

theorem gives_toJson (parameter : Parameter) (depth : Nat) :
    Gives (schema.fromText (depth + 1)) (rendered parameter.toJson) (.ok parameter) :=
  lawful.gives_members (fun _ => true) "RcParameter" ⟨"", ""⟩ parameter depth

theorem fromJson_toJson (parameter : Parameter) :
    schema.fromJson parameter.toJson = .ok parameter :=
  lawful.fill_members (fun _ => true) ⟨"", ""⟩ parameter

theorem parse_toJson (parameter : Parameter) :
    schema.parse (Utf8.encode parameter.toJson.compact) = .ok parameter :=
  Schema.parse_compact (parameter.gives_toJson _)

end Parameter

namespace Module

theorem fromJson_parameters (parameters : List Parameter) :
    (Schema.list Parameter.schema).fromJson (.list (parameters.map Parameter.toJson)) =
      .ok parameters := by
  have same := mapM_ok (ε := Problem) id parameters
  rw [List.map_id] at same
  change (parameters.map Parameter.toJson).mapM Parameter.schema.fromJson = _
  rw [List.mapM_map]
  simp only [Function.comp_def, Parameter.fromJson_toJson]
  exact same

theorem gives_parameters (parameters : List Parameter) (depth : Nat) :
    Gives ((Schema.list Parameter.schema).fromText (depth + 2))
      (rendered (.list (parameters.map Parameter.toJson)))
      ((Schema.list Parameter.schema).fromJson (.list (parameters.map Parameter.toJson))) := by
  refine Schema.gives_list_rendered ?_ ?_
  · exact List.forall_mem_map.mpr fun parameter _ => beginsItem_object _
  · refine List.forall_mem_map.mpr fun parameter _ => ?_
    rw [Parameter.fromJson_toJson]
    exact parameter.gives_toJson depth

def slots : List (Slot Module) := [
  .needs "name" .string fun name module => { module with name },
  .needs "parameters" (.list Parameter.schema) fun parameters module =>
    { module with parameters }]

def members (module : Module) : Members := [
  ("name", .text module.name),
  ("parameters", .list (module.parameters.map Parameter.toJson))]

theorem fill_members (module : Module) :
    Record.fillFromMembers slots [] ⟨"", []⟩ module.members = .ok module := by
  refine (Record.fillFromMembers_fill rfl List.not_mem_nil rfl).trans ?_
  have set : (slots[1]).fill.fromJson (.list (module.parameters.map Parameter.toJson)) =
      .ok fun other => { other with parameters := module.parameters } := by
    change ((Schema.list Parameter.schema).fromJson _).map _ = _
    rw [fromJson_parameters]
    rfl
  refine (Record.fillFromMembers_fill rfl (by decide) set).trans ?_
  rfl

theorem gives_members (module : Module) (depth : Nat) :
    Gives (schema.fromText (depth + 3)) (rendered (.object module.members)) (.ok module) := by
  rw [← module.fill_members]
  refine Schema.gives_record_rendered ?_ ?_
  · simp only [members, List.forall_mem_cons]
    exact ⟨⟨_, rfl⟩, ⟨_, rfl⟩, List.forall_mem_nil _⟩
  · intro member isMember slot isSlot named
    simp only [members, List.mem_cons, List.not_mem_nil, or_false] at isMember isSlot
    rcases isMember with rfl | rfl <;> rcases isSlot with rfl | rfl <;>
      dsimp only [Slot.needs] at named ⊢
    · exact (Schema.follows_map Schema.follows_string _).gives (isReadBack_text _)
    · simp at named
    · simp at named
    · exact Schema.gives_map (gives_parameters module.parameters depth) _

theorem parse_toJson (module : Module) :
    schema.parse (Utf8.encode module.toJson.compact) = .ok module :=
  Schema.parse_compact (module.gives_members _)

end Module

end Remote

/-! ## States and statistics of inputs -/

namespace Input

theorem State.parse_toJson (s : State) : parse (Utf8.encode s.toJson.compact) = .ok s := by
  cases s <;> rfl

theorem Uptime.parse_toJson (uptime : Uptime) :
    schema.parse (Utf8.encode uptime.toJson.compact) = .ok uptime := by
  have readBack : IsReadBack greatestDepth uptime.toJson := by
    cases uptime with
    | seconds n => exact isReadBack_number trivial
    | text s => exact isReadBack_text s
  have value : schema.fromJson uptime.toJson = .ok uptime := mirrors.reads rfl
  have read := (Schema.follows_ofValue ofJson).gives readBack
  exact Schema.parse_compact (value ▸ read)

theorem Stat.parse_toJson {stat : Stat} (integer : ∀ n, stat.offset = some n → n.IsInteger) :
    schema.parse (Utf8.encode stat.toJson.compact) = .ok { stat with state := none } := by
  have follows : ∀ slot ∈ slots, slot.fill.Follows (greatestDepth - 1) := by
    simp [slots, Slot.needs, Slot.allows, Schema.follows_map, Schema.follows_string,
      Schema.follows_word, Schema.follows_number, Schema.follows_optional, Uptime.schema,
      Schema.follows_ofValue]
  have each : ∀ member ∈ Record.written fields stat, IsReadBack (greatestDepth - 1) member.2 :=
    forall_written (fun _ => isReadBack_number trivial) isReadBack_text
      fun n h => isReadBack_number (integer n h)
  have read : Gives (schema.fromText greatestDepth)
      (rendered (.object (Record.written fields stat)))
      (schema.fromJson (.object (Record.written fields stat))) :=
    Record.gives_written rfl distinct_fields fun member h slot isSlot _ =>
      (follows slot isSlot).gives (each member h)
  rw [← toJson_eq, fromJson_toJson] at read
  exact Schema.parse_compact read

end Input

theorem Settings.lawful : Record.Lawful Settings.fields Settings.slots where
  keys := Settings.keys_slots
  distinct := Settings.distinct_fields
  fits := Settings.fits
  full := by simp [Settings.fields]
  ext _ _ := Settings.ext_fields

theorem Settings.parse_toJson (s : Settings) :
    schema.parse (Utf8.encode s.toJson.compact) = .ok s :=
  Schema.parse_compact (lawful.gives_written (follows _) (isReadBack_written s _))

/-! ## All records -/

/-- Every record is read back from its compact text.  The statistics of an input are, up to
their decoded state, if their timestamp offset is absent or an integer. -/
theorem records_read_back :
    (∀ identity : Identity,
      Identity.schema.parse (Utf8.encode identity.toJson.compact) = .ok identity) ∧
    (∀ state : Input.State,
      Input.State.parse (Utf8.encode state.toJson.compact) = .ok state) ∧
    (∀ uptime : Input.Uptime,
      Input.Uptime.schema.parse (Utf8.encode uptime.toJson.compact) = .ok uptime) ∧
    (∀ general : Config.General, Config.General.layout.schema.parse
      (Utf8.encode (Config.General.layout.toJson general).compact) = .ok general) ∧
    (∀ service : Config.Service, Config.Service.layout.schema.parse
      (Utf8.encode (Config.Service.layout.toJson service).compact) = .ok service) ∧
    (∀ subchannel : Config.Subchannel, Config.Subchannel.layout.schema.parse
      (Utf8.encode (Config.Subchannel.layout.toJson subchannel).compact) = .ok subchannel) ∧
    (∀ component : Config.Component, Config.Component.layout.schema.parse
      (Utf8.encode (Config.Component.layout.toJson component).compact) = .ok component) ∧
    (∀ parameter : Remote.Parameter,
      Remote.Parameter.schema.parse (Utf8.encode parameter.toJson.compact) = .ok parameter) ∧
    (∀ module : Remote.Module,
      Remote.Module.schema.parse (Utf8.encode module.toJson.compact) = .ok module) ∧
    (∀ settings : Settings,
      Settings.schema.parse (Utf8.encode settings.toJson.compact) = .ok settings) ∧
    ∀ stat : Input.Stat, (∀ n, stat.offset = some n → n.IsInteger) →
      Input.Stat.schema.parse (Utf8.encode stat.toJson.compact) =
        .ok { stat with state := none } :=
  ⟨Identity.parse_toJson, Input.State.parse_toJson, Input.Uptime.parse_toJson,
    Config.Layout.parse_toJson Config.General.lawful,
    Config.Layout.parse_toJson Config.Service.lawful,
    Config.Layout.parse_toJson Config.Subchannel.lawful,
    Config.Layout.parse_toJson Config.Component.lawful,
    Remote.Parameter.parse_toJson, Remote.Module.parse_toJson, Settings.parse_toJson,
    fun _ => Input.Stat.parse_toJson⟩

def Input.lateStat : Input.Stat :=
  { Input.Stat.start with
    minFill := -0x8000000000000000
    peakLeft := 0x7FFFFFFF
    underruns := 0xFFFFFFFFFFFFFFFF
    report := "Streaming (4)"
    state := some .streaming
    offset := some (.whole (-3) ⟨by decide, by decide⟩) }

theorem Input.lateStat_read_back :
    Input.Stat.schema.parse (Utf8.encode Input.lateStat.toJson.compact) =
      .ok { Input.lateStat with state := none } := by
  obtain ⟨-, -, -, -, -, -, -, -, -, -, stats⟩ := records_read_back
  refine stats Input.lateStat fun n h => ?_
  cases h
  trivial

end MuxConsole
