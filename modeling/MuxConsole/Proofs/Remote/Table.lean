import MuxConsole.Proofs.Named
import MuxConsole.Remote.Table

/-!
# Lines and tables of parameters

A parameter is read back from its line, as its name holds no separator.  What a table
says of a parameter is what the one module of that name says of it, and a value that
has been assigned is found where it has been put and nowhere else.
-/

namespace MuxConsole.Remote

/-! ## Lines -/

theorem splitLine_append {name : List Char} (h : ¬ separator <:+: name) (value : List Char) :
    splitLine (name ++ (separator ++ value)) = some (name, value) := by
  induction name with
  | nil => simp [separator, splitLine]
  | cons c name ih =>
      have rest : ¬ separator <:+: name := fun inside => h (List.infix_cons inside)
      have split := ih rest
      cases name with
      | nil => simp_all [separator, splitLine]
      | cons d name =>
          have apart : ¬ (c = ':' ∧ d = ' ') := by
            rintro ⟨rfl, rfl⟩
            exact h ⟨[], name, rfl⟩
          rw [List.cons_append, List.cons_append, splitLine, if_neg apart,
            ← List.cons_append, split]
          rfl

theorem Parameter.ofLine_line {parameter : Parameter} (named : IsParameterName parameter.name) :
    ofLine parameter.line = .ok parameter := by
  have chars : parameter.line.toList =
      parameter.name.toList ++ (separator ++ parameter.value.toList) := by
    simp [line, separator]
  rw [ofLine, chars, splitLine_append named]
  simp

theorem splitLine_eq_some {text name value : List Char}
    (h : splitLine text = some (name, value)) :
    text = name ++ (separator ++ value) ∧ ¬ separator <:+: name := by
  induction text using splitLine.induct generalizing name with
  | case1 => cases h
  | case2 => cases h
  | case3 c d rest here =>
      rw [splitLine, if_pos here] at h
      cases h
      obtain ⟨rfl, rfl⟩ := here
      exact ⟨rfl, by simp [separator]⟩
  | case4 c d rest apart ih =>
      rw [splitLine, if_neg apart] at h
      obtain ⟨⟨name, value⟩, split, same⟩ := Option.map_eq_some_iff.mp h
      cases same
      obtain ⟨text, named⟩ := ih split
      refine ⟨by rw [text, List.cons_append], fun inside => ?_⟩
      rcases List.infix_cons_iff.mp inside with first | later
      · -- A separator at the front begins with both characters of the text.
        obtain ⟨more, first⟩ := first
        obtain ⟨rfl, hname⟩ : ':' = c ∧ ' ' :: more = name := by simpa [separator] using first
        rw [← hname] at text
        exact apart ⟨rfl, (List.cons.inj text).1⟩
      · exact named later

theorem splitLine_eq_none {text : List Char} (h : splitLine text = none) :
    ¬ separator <:+: text := by
  induction text using splitLine.induct with
  | case1 => simp [separator]
  | case2 c =>
      intro inside
      exact absurd inside.length_le (by simp [separator])
  | case3 c d rest here =>
      rw [splitLine, if_pos here] at h
      cases h
  | case4 c d rest apart ih =>
      rw [splitLine, if_neg apart, Option.map_eq_none_iff] at h
      intro inside
      rcases List.infix_cons_iff.mp inside with first | later
      · exact apart (by simpa [separator, eq_comm] using first)
      · exact ih h later

theorem Parameter.ofLine_eq_ok {line : String} {parameter : Parameter}
    (h : ofLine line = .ok parameter) :
    separator <:+: line.toList ∧ parameter.line = line ∧ IsParameterName parameter.name := by
  unfold ofLine at h
  split at h
  · rename_i name value split
    cases h
    obtain ⟨text, named⟩ := splitLine_eq_some split
    refine ⟨⟨name, value, by rw [text, List.append_assoc]⟩, ?_, ?_⟩
    · apply String.toList_injective
      rw [text]
      simp [Parameter.line, separator]
    · rwa [IsParameterName, String.toList_ofList]
  · cases h

theorem Parameter.ofLine_eq_error {line : String} {fault : Fault}
    (h : ofLine line = .error fault) :
    ¬ separator <:+: line.toList ∧ fault = .malformed "show" (.noSeparator line) := by
  unfold ofLine at h
  split at h
  · cases h
  · rename_i split
    cases h
    exact ⟨splitLine_eq_none split, rfl⟩

/-! ## Finding by name -/

namespace Module

theorem lookup_eq (module : Module) (parameter : String) :
    (module.parameters.map fun p => (p.name, p.value)).lookup parameter =
      module.parameter? parameter := by
  obtain ⟨_, parameters⟩ := module
  induction parameters with
  | nil => rfl
  | cons first rest ih =>
      by_cases same : first.name = parameter
      · simp [Module.parameter?, same]
      · have other : (parameter == first.name) = false := by simpa using Ne.symm same
        simp only [Module.parameter?] at ih ⊢
        simp [List.lookup_cons, other, same, ih]

theorem parameter?_assign (module : Module) (parameter value name : String) :
    (module.assign parameter value).parameter? name =
      if name = parameter then (module.parameter? parameter).map fun _ => value
      else module.parameter? name := by
  obtain ⟨_, parameters⟩ := module
  induction parameters with
  | nil => simp [Module.parameter?, Module.assign]
  | cons first rest ih =>
      simp only [Module.parameter?, Module.assign, List.map_cons, List.find?_cons] at ih ⊢
      by_cases here : first.name = parameter
      · by_cases asked : name = parameter
        · simp [here, asked]
        · simpa [here, asked, Ne.symm asked] using ih
      · by_cases found : first.name = name
        · have other : ¬ name = parameter := fun same => here (found.trans same)
          simp [found, other]
        · simpa [here, found] using ih

end Module

namespace Table

variable {table : Table}

theorem find?_of_mem {module : Module} (member : module ∈ table.modules) :
    table.modules.find? (fun m => m.name = module.name) = some module :=
  find?_of_nodup table.distinct member

theorem value?_eq_some_iff {module parameter value : String} :
    table.value? module parameter = some value ↔
      ∃ m ∈ table.modules, m.name = module ∧ m.parameter? parameter = some value := by
  unfold value?
  constructor
  · intro h
    split at h
    · rename_i m found
      refine ⟨m, List.mem_of_find?_eq_some found, by simpa using List.find?_some found, ?_⟩
      rwa [Module.lookup_eq] at h
    · cases h
  · rintro ⟨m, member, rfl, found⟩
    rw [find?_of_mem member]
    dsimp only
    rw [Module.lookup_eq, found]

/-- A value is found where it has been assigned, and every other stays. -/
theorem value?_assign (module parameter value : String) (m p : String) :
    (table.assign module parameter value).value? m p =
      if (m, p) = (module, parameter) then (table.value? m p).map fun _ => value
      else table.value? m p := by
  have named (found : Module) :
      (if found.name = module then found.assign parameter value else found).name =
        found.name := by
    split
    · rfl
    · rfl
  unfold value?
  simp only [assign, List.find?_map, Function.comp_def, named, Module.lookup_eq]
  cases found : table.modules.find? fun other => other.name = m with
  | none => simp
  | some first =>
      have name : first.name = m := by simpa using List.find?_some found
      by_cases here : m = module
      · by_cases asked : p = parameter
        · simp [name, here, asked, Module.parameter?_assign]
        · simp [name, here, asked, Module.parameter?_assign]
      · simp [name, here]

end Table

end MuxConsole.Remote
