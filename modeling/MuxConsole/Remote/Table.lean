import MuxConsole.Remote.Module

/-!
# Tables of parameters

What a remote control server has to show: modules of different names, each with
parameters of different names.  The name of a parameter has no colon with a blank
after it, so that it can be told from the value on its line.
-/

namespace MuxConsole.Remote

def separator : List Char := [':', ' ']

abbrev IsParameterName (name : String) : Prop := ¬ separator <:+: name.toList

namespace Module

structure WellFormed (module : Module) : Prop where
  distinct : (module.parameters.map (·.name)).Nodup
  named : ∀ parameter ∈ module.parameters, IsParameterName parameter.name

def assign (parameter value : String) (module : Module) : Module :=
  { module with
    parameters := module.parameters.map fun p =>
      if p.name = parameter then { p with value } else p }

theorem map_name_assign (parameter value : String) (module : Module) :
    (module.assign parameter value).parameters.map (·.name) =
      module.parameters.map (·.name) := by
  rw [assign, List.map_map]
  refine List.map_congr_left fun p _ => ?_
  by_cases same : p.name = parameter <;> simp [same]

theorem WellFormed.assign {module : Module} (h : module.WellFormed) (parameter value : String) :
    (module.assign parameter value).WellFormed where
  distinct := by
    rw [map_name_assign]
    exact h.distinct
  named := by
    intro p hp
    obtain ⟨old, hold, rfl⟩ := List.mem_map.mp hp
    have named := h.named old hold
    split
    · exact named
    · exact named

end Module

structure Table where
  modules : List Module
  distinct : (modules.map (·.name)).Nodup
  wellFormed : ∀ module ∈ modules, module.WellFormed

namespace Table

def value? (table : Table) (module parameter : String) : Option String :=
  match table.modules.find? fun m => m.name = module with
  | some m => (m.parameters.map fun p => (p.name, p.value)).lookup parameter
  | none => none

theorem map_name_assign (modules : List Module) (module parameter value : String) :
    (modules.map fun m => if m.name = module then m.assign parameter value else m).map (·.name) =
      modules.map (·.name) := by
  rw [List.map_map]
  refine List.map_congr_left fun m _ => ?_
  by_cases same : m.name = module <;> simp [same, Module.assign]

def assign (module parameter value : String) (table : Table) : Table where
  modules := table.modules.map fun m =>
    if m.name = module then m.assign parameter value else m
  distinct := by
    rw [map_name_assign]
    exact table.distinct
  wellFormed := by
    intro m hm
    obtain ⟨old, hold, rfl⟩ := List.mem_map.mp hm
    have wellFormed := table.wellFormed old hold
    split
    · exact wellFormed.assign parameter value
    · exact wellFormed

end Table

end MuxConsole.Remote
