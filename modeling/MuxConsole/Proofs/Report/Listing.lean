import MuxConsole.Proofs.Remote.Table
import MuxConsole.Proofs.Text.Lines
import MuxConsole.Report.Columns

/-!
# Reading a listing of modules

A listing has a line for every module, and after it an indented one for each of its
parameters.  It says all there is to know of the modules, as long as no module has a name
that looks indented.
-/

namespace MuxConsole.Report

open Remote Text

/-! ## Reading -/

def indent : String := "    "

def readLine (read : List Module) (line : String) : Option (List Module) :=
  match after? indent line with
  | none => some (⟨line, []⟩ :: read)
  | some shown =>
      match Parameter.ofLine shown, read with
      | .ok parameter, current :: earlier =>
          some ({ current with parameters := current.parameters ++ [parameter] } :: earlier)
      | _, _ => none

def readModules (text : String) : Option (List Module) :=
  ((lines text).foldlM readLine []).map List.reverse

theorem readLine_name {name : String} (unindented : ¬ indent.toList <+: name.toList)
    (read : List Module) : readLine read name = some (⟨name, []⟩ :: read) := by
  rw [readLine, after?_eq_none unindented]

theorem readLine_parameter {parameter : Parameter} (named : IsParameterName parameter.name)
    (current : Module) (earlier : List Module) :
    readLine (current :: earlier) (indent ++ parameter.line) =
      some ({ current with parameters := current.parameters ++ [parameter] } :: earlier) := by
  rw [readLine, after?_append]
  dsimp only
  rw [Parameter.ofLine_line named]

/-! ## Reading back -/

/-- What a listing tells apart: no line break anywhere, and a name that begins the line of a
module is not indented. -/
structure Listable (module : Module) : Prop where
  unindented : ¬ indent.toList <+: module.name.toList
  name : IsLine module.name
  named : ∀ parameter ∈ module.parameters, IsParameterName parameter.name
  parameters : ∀ parameter ∈ module.parameters, IsLine parameter.name ∧ IsLine parameter.value

theorem foldlM_parameters {parameters : List Parameter}
    (named : ∀ parameter ∈ parameters, IsParameterName parameter.name) (current : Module)
    (earlier : List Module) :
    (parameters.map fun parameter => indent ++ parameter.line).foldlM readLine
        (current :: earlier) =
      some ({ current with parameters := current.parameters ++ parameters } :: earlier) := by
  induction parameters generalizing current with
  | nil => simp
  | cons first rest ih =>
      obtain ⟨here, others⟩ := List.forall_mem_cons.mp named
      rw [List.map_cons, List.foldlM_cons, readLine_parameter here, Option.bind_eq_bind,
        Option.bind_some, ih others]
      simp

theorem foldlM_moduleLines {module : Module} (h : Listable module) (read : List Module) :
    (moduleLines module).foldlM readLine read = some (module :: read) := by
  have lines : moduleLines module =
      module.name :: module.parameters.map fun parameter => indent ++ parameter.line := rfl
  rw [lines, List.foldlM_cons, readLine_name h.unindented, Option.bind_eq_bind,
    Option.bind_some, foldlM_parameters h.named, List.nil_append]

theorem foldlM_listing {listed : List Module} (h : ∀ module ∈ listed, Listable module)
    (read : List Module) :
    (listed.flatMap moduleLines).foldlM readLine read = some (listed.reverse ++ read) := by
  induction listed generalizing read with
  | nil => rfl
  | cons module rest ih =>
      obtain ⟨here, others⟩ := List.forall_mem_cons.mp h
      rw [List.flatMap_cons, List.foldlM_append, foldlM_moduleLines here, Option.bind_eq_bind,
        Option.bind_some, ih others, List.reverse_cons, List.append_assoc,
        List.singleton_append]

theorem isLine_of_mem_moduleLines {module : Module} (h : Listable module) {line : String}
    (member : line ∈ moduleLines module) : IsLine line := by
  rcases List.mem_cons.mp member with rfl | shown
  · exact h.name
  · obtain ⟨parameter, hparameter, rfl⟩ := List.mem_map.mp shown
    obtain ⟨name, value⟩ := h.parameters parameter hparameter
    rw [Parameter.line]
    simp only [isLine_append]
    exact ⟨isLine_ofList (by decide), ⟨name, isLine_ofList (by decide)⟩, value⟩

theorem readModules_modules {listed : List Module} (h : ∀ module ∈ listed, Listable module) :
    readModules (modules listed) = some listed := by
  have plain : ∀ line ∈ listed.flatMap moduleLines, IsLine line := by
    intro line member
    obtain ⟨module, hmodule, shown⟩ := List.mem_flatMap.mp member
    exact isLine_of_mem_moduleLines (h module hmodule) shown
  rw [readModules, modules, lines_unlines_of_isLine plain, foldlM_listing h, Option.map_some,
    List.append_nil, List.reverse_reverse]

/-- A line is read as a parameter exactly if it has a separator, at the first one, and no two
parameters have one line.  So a listing of modules can be read back. -/
theorem listing_read_back :
    (∀ line, (∃ parameter, Parameter.ofLine line = .ok parameter) ↔
      separator <:+: line.toList) ∧
    (∀ line parameter, Parameter.ofLine line = .ok parameter →
      IsParameterName parameter.name ∧ parameter.name ++ ": " ++ parameter.value = line) ∧
    (∀ name value, IsParameterName name →
      Parameter.ofLine (name ++ ": " ++ value) = .ok ⟨name, value⟩) ∧
    ∀ listed, (∀ module ∈ listed, Listable module) →
      readModules (modules listed) = some listed := by
  refine ⟨fun line => ⟨?_, fun separated => ?_⟩, ?_, ?_, fun _ => readModules_modules⟩
  · rintro ⟨parameter, found⟩
    exact (Parameter.ofLine_eq_ok found).1
  · cases found : Parameter.ofLine line with
    | ok parameter => exact ⟨parameter, rfl⟩
    | error fault => exact absurd separated (Parameter.ofLine_eq_error found).1
  · intro line parameter found
    obtain ⟨_, same, named⟩ := Parameter.ofLine_eq_ok found
    exact ⟨named, same⟩
  · intro name value named
    change Parameter.ofLine (Parameter.line ⟨name, value⟩) = .ok ⟨name, value⟩
    exact Parameter.ofLine_line named

/-- Names may be empty or end in a colon, and values look like other lines. -/
theorem listing_read_back_of_odd_names :
    let odd : Module := ⟨"", [⟨"label:", ": Radio: One"⟩, ⟨" ", "    gain: 1"⟩, ⟨"", ""⟩]⟩
    let empty : Module := ⟨"   gain: 1", []⟩
    Parameter.ofLine "label:: : Radio: One" = .ok ⟨"label:", ": Radio: One"⟩ ∧
      readModules (modules [odd, empty, odd]) = some [odd, empty, odd] := by
  intro odd empty
  obtain ⟨_, _, split, listing⟩ := listing_read_back
  have first : Listable odd := ⟨by decide, by decide, by decide, by decide⟩
  have second : Listable empty := ⟨by decide, by decide, nofun, nofun⟩
  refine ⟨split "label:" ": Radio: One" (by decide), listing _ ?_⟩
  exact List.forall_mem_cons.mpr ⟨first, List.forall_mem_cons.mpr ⟨second,
    List.forall_mem_singleton.mpr first⟩⟩

end MuxConsole.Report
