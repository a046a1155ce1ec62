import Mathlib.Data.List.Forall2
import Mathlib.Data.List.Nodup
import Mathlib.Data.List.TakeWhile
import MuxConsole.Proofs.Report.Reading

/-!
# Graphs of inputs

Each input has a graph of its buffer, of its counters and of its levels, and one of its state
where that is known.  All that a block gives values to has been defined.  Dashes become
underscores in the name of a graph, so inputs whose identifiers differ in nothing else share
their graphs, and no others do.
-/

namespace MuxConsole.Report

open Text

variable {input : String} {expiry : Option String} {snapshot : Input.Snapshot}

/-! ## Identifiers -/

theorem isLine_graphIdent (h : IsLine input) : IsLine (graphIdent input) := by
  refine isLine_ofList fun newline => ?_
  obtain ⟨c, member, same⟩ := List.mem_map.mp newline
  split at same
  · exact absurd same (by decide)
  · exact h (same ▸ member)

/-- Texts that differ at most in what is a dash and what is an underscore. -/
def SameButDashes (a b : String) : Prop :=
  List.Forall₂ (fun c d => c = d ∨ c ∈ ['-', '_'] ∧ d ∈ ['-', '_']) a.toList b.toList

instance (a b : String) : Decidable (SameButDashes a b) :=
  inferInstanceAs (Decidable (List.Forall₂ (fun c d => c = d ∨ c ∈ ['-', '_'] ∧ d ∈ ['-', '_'])
    a.toList b.toList))

theorem graphIdent_eq_iff {a b : String} : graphIdent a = graphIdent b ↔ SameButDashes a b := by
  have pointwise (c d : Char) : ((if c = '-' then '_' else c) = if d = '-' then '_' else d) ↔
      c = d ∨ c ∈ ['-', '_'] ∧ d ∈ ['-', '_'] := by
    simp only [List.mem_cons, List.not_mem_nil, or_false]
    grind
  rw [graphIdent, graphIdent, String.ofList_inj, ← List.forall₂_eq_eq_eq,
    List.forall₂_map_left_iff, List.forall₂_map_right_iff, SameButDashes]
  simp only [pointwise]

/-! ## Names -/

inductive GraphKind where
  | buffers
  | counters
  | levels
  | state
deriving DecidableEq, Repr

namespace GraphKind

def word : GraphKind → String
  | .buffers => "buffers_"
  | .counters => "over_underruns_"
  | .levels => "audio_levels_"
  | .state => "state_"

def graphName (kind : GraphKind) (input : String) : String := kind.word ++ graphIdent input

def all : List GraphKind := [.buffers, .counters, .levels, .state]

def fields : GraphKind → List String
  | .buffers => ["high", "low"]
  | .counters => ["underruns", "overruns"]
  | .levels => ["left", "left_slow", "right", "right_slow"]
  | .state => ["state"]

def known (stat : Input.Stat) : List GraphKind :=
  [.buffers, .counters, .levels] ++ (stat.state.map fun _ => .state).toList

theorem nodup_known (stat : Input.Stat) : (known stat).Nodup := by
  unfold known
  cases stat.state with
  | none => decide
  | some state => exact (by decide : all.Nodup)

theorem head?_graphName (kind : GraphKind) (input : String) :
    (kind.graphName input).toList.head? = kind.word.toList.head? := by
  have nonempty : kind.word.toList ≠ [] := by cases kind <;> decide
  rw [graphName, String.toList_append, List.head?_append_of_ne_nil _ nonempty]

theorem eq_of_head?_word {kind other : GraphKind}
    (h : kind.word.toList.head? = other.word.toList.head?) : kind = other := by
  revert h
  cases kind <;> cases other <;> decide

theorem graphName_eq_iff {kind other : GraphKind} {a b : String} :
    kind.graphName a = other.graphName b ↔ kind = other ∧ SameButDashes a b := by
  rw [← graphIdent_eq_iff]
  constructor
  · intro same
    have heads : kind.word.toList.head? = other.word.toList.head? := by
      rw [← head?_graphName kind a, same, head?_graphName]
    cases eq_of_head?_word heads
    exact ⟨rfl, (String.append_right_inj _).mp same⟩
  · rintro ⟨rfl, same⟩
    rw [graphName, graphName, same]

theorem graphName_ne_expiry (kind : GraphKind) (input : String) :
    kind.graphName input ≠ expiryGraph.name := by
  intro same
  have head := head?_graphName kind input
  rw [same] at head
  revert head
  cases kind <;> decide

/-- Each graph has a name of its own unless two identifiers are the same but for dashes. -/
theorem nodup_graphNames_iff {α : Type} (input : α → String) (kinds : α → List GraphKind)
    {items : List α} (once : ∀ item ∈ items, (kinds item).Nodup)
    (shown : ∀ item ∈ items, .buffers ∈ kinds item) :
    (expiryGraph.name ::
        items.flatMap fun item => (kinds item).map (·.graphName (input item))).Nodup ↔
      (items.map input).Pairwise fun a b => ¬ SameButDashes a b := by
  have other : expiryGraph.name ∉
      items.flatMap fun item => (kinds item).map (·.graphName (input item)) := by
    intro member
    obtain ⟨item, _, member⟩ := List.mem_flatMap.mp member
    obtain ⟨kind, _, same⟩ := List.mem_map.mp member
    exact graphName_ne_expiry kind (input item) same
  have each : ∀ item ∈ items, ((kinds item).map (·.graphName (input item))).Nodup := by
    intro item member
    refine List.Nodup.map_on (fun kind _ other _ same => ?_) (once item member)
    exact (graphName_eq_iff.mp same).1
  rw [List.nodup_cons, and_iff_right other, List.nodup_flatMap, List.pairwise_map]
  constructor
  · -- Inputs that are the same but for dashes share at least the graph of the buffer.
    rintro ⟨_, apart⟩
    refine apart.imp_of_mem fun {first second} here there disjoint alike => ?_
    refine disjoint (List.mem_map_of_mem (shown first here)) ?_
    rw [graphName_eq_iff.mpr ⟨rfl, alike⟩]
    exact List.mem_map_of_mem (shown second there)
  · intro apart
    refine ⟨each, apart.imp fun {first second} different => ?_⟩
    refine List.disjoint_left.mpr fun name here there => ?_
    obtain ⟨kind, _, rfl⟩ := List.mem_map.mp here
    obtain ⟨other, _, same⟩ := List.mem_map.mp there
    exact different (graphName_eq_iff.mp same.symm).2

end GraphKind

/-! ## Definitions -/

theorem map_name_inputGraphs (input : String) :
    (inputGraphs input).map (·.name) = GraphKind.all.map (·.graphName input) := rfl

theorem exists_graph (kind : GraphKind) (input : String) : ∃ graph ∈ inputGraphs input,
    graph.name = kind.graphName input ∧ graph.fields.map (·.name) = kind.fields := by
  cases kind with
  | buffers => exact ⟨_, .head _, rfl, rfl⟩
  | counters => exact ⟨_, .tail _ (.head _), rfl, rfl⟩
  | levels => exact ⟨_, .tail _ (.tail _ (.head _)), rfl, rfl⟩
  | state => exact ⟨_, .tail _ (.tail _ (.tail _ (.head _))), rfl, rfl⟩

theorem isPlain_spelled {key text : List Char} (hkey : key.all isNameChar = true)
    (htext : '\n' ∉ text) : IsName (String.ofList key) ∧ IsLine (String.ofList text) :=
  ⟨isName_ofList hkey, isLine_ofList htext⟩

theorem bufferField_isPlain {name info label : List Char} (hname : name.all isNameChar = true)
    (hinfo : '\n' ∉ info) (hlabel : '\n' ∉ label) :
    (bufferField (String.ofList name) (String.ofList info) (String.ofList label)).IsPlain where
  name := isName_ofList hname
  attributes := by
    simp only [bufferField, List.forall_mem_cons]
    exact ⟨isPlain_spelled (by decide) hinfo, isPlain_spelled (by decide) hlabel,
      isPlain_spelled (by decide) (by decide),
      isPlain_spelled (by decide) (by decide), nofun⟩
  labelled := .tail _ (.head _)

theorem counterField_isPlain {name info : List Char} (hname : name.all isNameChar = true)
    (hinfo : '\n' ∉ info) :
    (counterField (String.ofList name) (String.ofList info)).IsPlain where
  name := isName_ofList hname
  attributes := by
    simp only [counterField, List.forall_mem_cons]
    exact ⟨isPlain_spelled (by decide) hinfo, isPlain_spelled (by decide) hinfo,
      isPlain_spelled (by decide) (by decide),
      isPlain_spelled (by decide) (by decide),
      isPlain_spelled (by decide) (by decide), nofun⟩
  labelled := .tail _ (.head _)

theorem levelField_isPlain {name info label : List Char} (hname : name.all isNameChar = true)
    (hinfo : '\n' ∉ info) (hlabel : '\n' ∉ label) :
    (levelField (String.ofList name) (String.ofList info) (String.ofList label)).IsPlain where
  name := isName_ofList hname
  attributes := by
    simp only [levelField, List.forall_mem_cons]
    exact ⟨isPlain_spelled (by decide) hinfo, isPlain_spelled (by decide) hlabel,
      isPlain_spelled (by decide) (by decide),
      isPlain_spelled (by decide) (by decide),
      isPlain_spelled (by decide) (by decide),
      isPlain_spelled (by decide) (by decide), nofun⟩
  labelled := .tail _ (.head _)

section Plain

variable {ident : String}

theorem isLine_around {before after : List Char} (h : IsLine ident) (first : '\n' ∉ before)
    (last : '\n' ∉ after) : IsLine (String.ofList before ++ ident ++ String.ofList after) :=
  isLine_append.mpr ⟨isLine_append.mpr ⟨isLine_ofList first, h⟩, isLine_ofList last⟩

theorem bufferGraph_isPlain (h : IsLine ident) : (bufferGraph ident).IsPlain where
  name := isLine_ofList_append (by decide) h
  title := isLine_around h (by decide) (by decide)
  args := isLine_ofList (by decide)
  verticalLabel := isLine_ofList_append (by decide) (isLine_ofList (by decide))
  category := isLine_ofList (by decide)
  info := isLine_around h (by decide) (by decide)
  fields := List.forall_mem_cons.mpr
    ⟨bufferField_isPlain (by decide) (by decide) (by decide),
    List.forall_mem_singleton.mpr (bufferField_isPlain (by decide) (by decide) (by decide))⟩
  drawn := List.cons_ne_nil _ _
  ordered := rfl

theorem counterGraph_isPlain (h : IsLine ident) : (counterGraph ident).IsPlain where
  name := isLine_ofList_append (by decide) h
  title := isLine_around h (by decide) (by decide)
  args := isLine_ofList (by decide)
  verticalLabel := isLine_ofList_append (by decide) (isLine_ofList (by decide))
  category := isLine_ofList (by decide)
  info := isLine_around h (by decide) (by decide)
  fields := List.forall_mem_cons.mpr
    ⟨counterField_isPlain (by decide) (by decide),
    List.forall_mem_singleton.mpr (counterField_isPlain (by decide) (by decide))⟩
  drawn := List.cons_ne_nil _ _
  ordered := rfl

theorem levelGraph_isPlain (h : IsLine ident) : (levelGraph ident).IsPlain where
  name := isLine_ofList_append (by decide) h
  title := isLine_around h (by decide) (by decide)
  args := isLine_ofList (by decide)
  verticalLabel := isLine_ofList_append (by decide) (isLine_ofList (by decide))
  category := isLine_ofList (by decide)
  info := isLine_ofList_append (by decide) (isLine_append.mpr ⟨h, isLine_ofList (by decide)⟩)
  fields := by
    simp only [levelGraph, List.forall_mem_cons]
    exact ⟨levelField_isPlain (by decide) (by decide) (by decide),
      levelField_isPlain (by decide) (by decide) (by decide),
      levelField_isPlain (by decide) (by decide) (by decide),
      levelField_isPlain (by decide) (by decide) (by decide), nofun⟩
  drawn := List.cons_ne_nil _ _
  ordered := rfl

theorem stateGraph_isPlain (h : IsLine ident) : (stateGraph ident).IsPlain where
  name := isLine_ofList_append (by decide) h
  title := isLine_ofList_append (by decide) h
  args := isLine_ofList (by decide)
  verticalLabel := isLine_ofList (by decide)
  category := isLine_ofList (by decide)
  info := isLine_around h (by decide) (by decide)
  fields := by
    refine List.forall_mem_singleton.mpr ⟨isName_ofList (by decide), ?_, .tail _ (.head _)⟩
    simp only [List.forall_mem_cons]
    exact ⟨isPlain_spelled (by decide) (by decide),
      isPlain_spelled (by decide) (by decide),
      isPlain_spelled (by decide) (by decide),
      isPlain_spelled (by decide) (by decide), nofun⟩
  drawn := List.cons_ne_nil _ _
  ordered := rfl

end Plain

theorem expiryGraph_isPlain : expiryGraph.IsPlain where
  name := isLine_ofList (by decide)
  title := isLine_ofList (by decide)
  args := isLine_ofList (by decide)
  verticalLabel := isLine_ofList (by decide)
  category := isLine_ofList (by decide)
  info := isLine_ofList (by decide)
  fields := by
    refine List.forall_mem_singleton.mpr ⟨isName_ofList (by decide), ?_, .tail _ (.head _)⟩
    simp only [List.forall_mem_cons]
    exact ⟨isPlain_spelled (by decide) (by decide),
      isPlain_spelled (by decide) (by decide),
      isPlain_spelled (by decide) (by decide),
      ⟨isName_ofList (by decide), by decide⟩, nofun⟩
  drawn := List.cons_ne_nil _ _
  ordered := rfl

theorem inputGraphs_isPlain (h : IsLine input) : ∀ graph ∈ inputGraphs input, graph.IsPlain := by
  have ident := isLine_graphIdent h
  simp only [inputGraphs, List.forall_mem_cons]
  exact ⟨bufferGraph_isPlain ident, counterGraph_isPlain ident, levelGraph_isPlain ident,
    stateGraph_isPlain ident, nofun⟩

/-! ## Values -/

theorem isLine_nat (n : Nat) : IsLine (toString n) := by
  intro newline
  have digit := Nat.isDigit_of_mem_toDigits (by decide) (by decide)
    (Nat.toList_repr ▸ newline : '\n' ∈ Nat.toDigits 10 n)
  exact absurd digit (by decide)

theorem isLine_int (n : Int) : IsLine (toString n) := by
  cases n with
  | ofNat n => exact isLine_nat n
  | negSucc n => exact isLine_ofList_append (by decide) (isLine_nat (n + 1))

theorem isLine_expiryValue (expiry : Option String) : IsLine (expiryValue expiry) := by
  unfold expiryValue
  split
  · exact isLine_ofList (by decide)
  · exact isLine_ofList (by decide)
  · rename_i digits _ found
    refine isLine_ofList fun newline => ?_
    obtain ⟨text, _, rfl⟩ := Option.map_eq_some_iff.mp found
    exact absurd (List.mem_takeWhile_imp newline) (by decide)

theorem map_graph_statBlocks (input : String) (stat : Input.Stat) :
    (statBlocks input stat).map (·.graph) =
      (GraphKind.known stat).map (·.graphName input) := by
  unfold statBlocks stateBlock GraphKind.known
  cases stat.state <;> rfl

theorem slowPeaks_isPlain (stat : Input.Stat) :
    ∀ entry ∈ slowPeaks stat, IsName entry.1 ∧ IsLine entry.2 := by
  unfold slowPeaks
  split
  · simp only [List.forall_mem_cons]
    exact ⟨⟨isName_ofList (by decide), isLine_int _⟩, ⟨isName_ofList (by decide), isLine_int _⟩,
      nofun⟩
  · nofun

theorem stateBlock_isPlain {ident : String} (h : IsLine ident) (state : Option Input.State) :
    ∀ block ∈ stateBlock ident state, block.IsPlain := by
  cases state with
  | none => nofun
  | some state =>
      refine List.forall_mem_singleton.mpr ⟨isLine_ofList_append (by decide) h, ?_⟩
      exact List.forall_mem_singleton.mpr ⟨isName_ofList (by decide), isLine_nat _⟩

theorem statBlocks_isPlain (h : IsLine input) (stat : Input.Stat) :
    ∀ block ∈ statBlocks input stat, block.IsPlain := by
  have ident := isLine_graphIdent h
  refine List.forall_mem_append.mpr ⟨?_, stateBlock_isPlain ident stat.state⟩
  simp only [List.forall_mem_cons]
  refine ⟨⟨isLine_ofList_append (by decide) ident, ?_⟩,
    ⟨isLine_ofList_append (by decide) ident, ?_⟩,
    ⟨isLine_ofList_append (by decide) ident, ?_⟩, nofun⟩
  · simp only [List.forall_mem_cons]
    exact ⟨⟨isName_ofList (by decide), isLine_int _⟩, ⟨isName_ofList (by decide), isLine_int _⟩,
      nofun⟩
  · simp only [List.forall_mem_cons]
    exact ⟨⟨isName_ofList (by decide), isLine_nat _⟩, ⟨isName_ofList (by decide), isLine_nat _⟩,
      nofun⟩
  · refine List.forall_mem_append.mpr ⟨?_, slowPeaks_isPlain stat⟩
    simp only [List.forall_mem_cons]
    exact ⟨⟨isName_ofList (by decide), isLine_int _⟩, ⟨isName_ofList (by decide), isLine_int _⟩,
      nofun⟩

theorem blocks_isPlain (plain : ∀ input ∈ snapshot.keys, IsLine input) :
    ∀ block ∈ blocks expiry snapshot, block.IsPlain := by
  refine List.forall_mem_cons.mpr ⟨⟨expiryGraph_isPlain.name, ?_⟩, ?_⟩
  · exact List.forall_mem_singleton.mpr ⟨isName_ofList (by decide), isLine_expiryValue expiry⟩
  · intro block member
    obtain ⟨entry, hentry, hblock⟩ := List.mem_flatMap.mp member
    exact statBlocks_isPlain (plain _ (List.mem_map_of_mem hentry)) entry.2 block hblock

theorem readBlocks_graphValues (plain : ∀ input ∈ snapshot.keys, IsLine input) :
    readBlocks (graphValues expiry snapshot) = some (blocks expiry snapshot) :=
  readBlocks_blocks (blocks_isPlain plain)

/-! ## Values are defined -/

/-- The graph of the block is defined, and its fields are drawn and have a label there. -/
def DefinedIn (config : String) (block : Block) : Prop :=
  ∃ definition ∈ readDefinitions config, definition.graph = block.graph ∧
    ∀ entry ∈ block.values, entry.1 ∈ definition.order ∧ entry.1 ∈ definition.labelled

theorem definedIn_graphConfig {inputs : List String} {graph : Graph} {block : Block}
    (member : graph ∈ graphs inputs) (plain : graph.IsPlain) (name : graph.name = block.graph)
    (fields : ∀ entry ∈ block.values, entry.1 ∈ graph.fields.map (·.name)) :
    DefinedIn (graphConfig inputs) block := by
  obtain ⟨definition, found, hname, order, labelled⟩ := exists_definition member plain
  refine ⟨definition, found, hname.trans name, fun entry hentry => ?_⟩
  have drawn := fields entry hentry
  obtain ⟨field, hfield, same⟩ := List.mem_map.mp drawn
  exact ⟨order ▸ drawn, same ▸ labelled field hfield⟩

theorem exists_kind {stat : Input.Stat} {block : Block} (member : block ∈ statBlocks input stat) :
    ∃ kind : GraphKind, block.graph = kind.graphName input ∧
      ∀ entry ∈ block.values, entry.1 ∈ kind.fields := by
  have slow : ∀ entry ∈ slowPeaks stat, entry.1 ∈ GraphKind.levels.fields := by
    unfold slowPeaks
    split
    · simp [GraphKind.fields]
    · nofun
  rcases List.mem_append.mp member with always | state
  · simp only [List.mem_cons, List.not_mem_nil, or_false] at always
    obtain rfl | rfl | rfl := always
    · exact ⟨.buffers, rfl, by simp [GraphKind.fields]⟩
    · exact ⟨.counters, rfl, by simp [GraphKind.fields]⟩
    · exact ⟨.levels, rfl, List.forall_mem_append.mpr ⟨by simp [GraphKind.fields], slow⟩⟩
  · cases known : stat.state with
    | none =>
        rw [known] at state
        cases state
    | some reported =>
        rw [known] at state
        cases List.mem_singleton.mp state
        exact ⟨.state, rfl, by simp [GraphKind.fields]⟩

theorem definedIn_of_mem_blocks {inputs : List String}
    (plain : ∀ input ∈ snapshot.keys, IsLine input)
    (covered : ∀ input ∈ snapshot.keys, input ∈ inputs) :
    ∀ block ∈ blocks expiry snapshot, DefinedIn (graphConfig inputs) block := by
  refine List.forall_mem_cons.mpr ⟨?_, fun block member => ?_⟩
  · exact definedIn_graphConfig List.mem_cons_self expiryGraph_isPlain rfl
      (List.forall_mem_singleton.mpr List.mem_cons_self)
  · obtain ⟨⟨input, stat⟩, hentry, hblock⟩ := List.mem_flatMap.mp member
    have key : input ∈ snapshot.keys := List.mem_map_of_mem hentry
    obtain ⟨kind, name, fields⟩ := exists_kind hblock
    obtain ⟨graph, hgraph, hname, hfields⟩ := exists_graph kind input
    have defined : graph ∈ graphs inputs :=
      List.mem_cons_of_mem _ (List.mem_flatMap.mpr ⟨input, covered input key, hgraph⟩)
    refine definedIn_graphConfig defined (inputGraphs_isPlain (plain input key) graph hgraph)
      (hname.trans name.symm) ?_
    rwa [hfields]

/-- All that a fetch gives values to is found in the definitions of inputs that have been
fetched, whatever else is defined there. -/
theorem values_defined (expiry : Option String) {snapshot : Input.Snapshot}
    {inputs : List String} (plain : ∀ input ∈ snapshot.keys, IsLine input)
    (covered : ∀ input ∈ snapshot.keys, input ∈ inputs) :
    ∃ found, readBlocks (graphValues expiry snapshot) = some found ∧
      ∀ block ∈ found, DefinedIn (graphConfig inputs) block :=
  ⟨_, readBlocks_graphValues plain, definedIn_of_mem_blocks plain covered⟩

/-- An identifier may look like other lines, and some input may have an odd one. -/
theorem values_defined_of_odd_idents :
    let stat : Input.Stat := { Input.Stat.start with
      peakLeftSlow := some (-8), peakRightSlow := some (-9), state := some .silent }
    let snapshot : Input.Snapshot := ⟨[("-\x7bident\x7d graph_order x.label", stat)], by decide⟩
    ∃ found, readBlocks (graphValues (some "in 5 s") snapshot) = some found ∧
      (∀ block ∈ found, DefinedIn
        (graphConfig ["a\nmultigraph b", "-\x7bident\x7d graph_order x.label"]) block) ∧
      ∃ block ∈ found, block.values =
        [("left", "0"), ("right", "0"), ("left_slow", "-8"), ("right_slow", "-9")] := by
  intro stat snapshot
  have plain : ∀ input ∈ snapshot.keys, IsLine input := by decide
  have covered : ∀ input ∈ snapshot.keys,
      input ∈ ["a\nmultigraph b", "-\x7bident\x7d graph_order x.label"] := by decide
  obtain ⟨found, read, defined⟩ := values_defined (some "in 5 s") plain covered
  refine ⟨found, read, defined, ?_⟩
  rw [readBlocks_graphValues plain] at read
  cases read
  exact ⟨_, .tail _ (.tail _ (.tail _ (.head _))), by decide⟩

/-! ## Inputs with graphs of their own -/

theorem nodup_graphNames_graphValues (plain : ∀ input ∈ snapshot.keys, IsLine input) :
    (graphNames (graphValues expiry snapshot)).Nodup ↔
      snapshot.keys.Pairwise fun a b => ¬ SameButDashes a b := by
  have names : graphNames (graphValues expiry snapshot) = expiryGraph.name ::
      snapshot.entries.flatMap fun entry =>
        (GraphKind.known entry.2).map (·.graphName entry.1) := by
    rw [graphValues, graphNames_blocks (blocks_isPlain plain), blocks, List.map_cons,
      List.map_flatMap]
    exact congrArg _ (List.flatMap_congr fun entry _ => map_graph_statBlocks entry.1 entry.2)
  rw [names]
  exact GraphKind.nodup_graphNames_iff _ _ (fun entry _ => GraphKind.nodup_known entry.2)
    (fun _ _ => List.mem_cons_self)

theorem nodup_graphNames_graphConfig {inputs : List String}
    (plain : ∀ input ∈ inputs, IsLine input) :
    (graphNames (graphConfig inputs)).Nodup ↔
      inputs.Pairwise fun a b => ¬ SameButDashes a b := by
  have graphsPlain : ∀ graph ∈ graphs inputs, graph.IsPlain := by
    refine List.forall_mem_cons.mpr ⟨expiryGraph_isPlain, fun graph member => ?_⟩
    obtain ⟨input, hinput, hgraph⟩ := List.mem_flatMap.mp member
    exact inputGraphs_isPlain (plain input hinput) graph hgraph
  have names : graphNames (graphConfig inputs) = expiryGraph.name ::
      inputs.flatMap fun input => GraphKind.all.map (·.graphName input) := by
    rw [graphConfig, graphNames_graphs graphsPlain, graphs, List.map_cons, List.map_flatMap]
    exact congrArg _ (List.flatMap_congr fun input _ => map_name_inputGraphs input)
  have once : GraphKind.all.Nodup := by decide
  have distinct := GraphKind.nodup_graphNames_iff id (fun _ => GraphKind.all)
    (fun input (_ : input ∈ inputs) => once) (fun _ _ => List.mem_cons_self)
  rw [List.map_id] at distinct
  rw [names]
  exact distinct

theorem sameButDashes_of_name_eq {a b : String} {stat : Input.Stat} {block : Block}
    {graph : Graph} (printed : block ∈ statBlocks a stat) (defined : graph ∈ inputGraphs b)
    (same : block.graph = graph.name) : SameButDashes a b := by
  obtain ⟨kind, name, _⟩ := exists_kind printed
  have named : graph.name ∈ GraphKind.all.map (·.graphName b) := by
    rw [← map_name_inputGraphs]
    exact List.mem_map_of_mem defined
  obtain ⟨other, _, hother⟩ := List.mem_map.mp named
  exact (GraphKind.graphName_eq_iff.mp (name.symm.trans (same.trans hother.symm))).2

/-- The graphs of a fetch, and of definitions, all have names of their own exactly if no two
identifiers are the same but for dashes, and only inputs with such identifiers take values
for each other's graphs. -/
theorem graph_names_distinct_iff :
    (∀ (expiry : Option String) (snapshot : Input.Snapshot),
      (∀ input ∈ snapshot.keys, IsLine input) →
        ((graphNames (graphValues expiry snapshot)).Nodup ↔
          snapshot.keys.Pairwise fun a b => ¬ SameButDashes a b)) ∧
    (∀ inputs : List String, (∀ input ∈ inputs, IsLine input) →
      ((graphNames (graphConfig inputs)).Nodup ↔
        inputs.Pairwise fun a b => ¬ SameButDashes a b)) ∧
    ∀ (a b : String) (stat : Input.Stat), ∀ block ∈ statBlocks a stat,
      ∀ graph ∈ inputGraphs b, block.graph = graph.name → SameButDashes a b :=
  ⟨fun _ _ => nodup_graphNames_graphValues, fun _ => nodup_graphNames_graphConfig,
    fun _ _ _ _ printed _ defined => sameButDashes_of_name_eq printed defined⟩

/-- A dash and a blank are told apart, and so are identifiers of different lengths. -/
theorem graph_names_distinct_of_three :
    let snapshot : Input.Snapshot :=
      ⟨[("a b", .start), ("a-b", .start), ("a-b-", .start)], by decide⟩
    (graphNames (graphValues none snapshot)).Nodup ∧
      (graphNames (graphConfig ["a b", "a-b", "a-b-"])).Nodup ∧
      ∀ block ∈ statBlocks "a b" .start, ∀ graph ∈ inputGraphs "a-b",
        block.graph ≠ graph.name := by
  intro snapshot
  obtain ⟨values, config, attributed⟩ := graph_names_distinct_iff
  have plain : ∀ input ∈ ["a b", "a-b", "a-b-"], IsLine input := by decide
  refine ⟨(values none snapshot plain).mpr (by decide), (config _ plain).mpr (by decide), ?_⟩
  intro block printed graph defined same
  exact absurd (attributed _ _ _ block printed graph defined same) (by decide)

/-- An underscore is not told apart from a dash. -/
theorem dash_and_underscore_share_graphs :
    let snapshot : Input.Snapshot := ⟨[("a-b", .start), ("a_b", .start)], by decide⟩
    (∀ input ∈ snapshot.keys, IsLine input) ∧ snapshot.keys.Nodup ∧
      ¬ (graphNames (graphValues none snapshot)).Nodup ∧
      ¬ (graphNames (graphConfig snapshot.keys)).Nodup := by
  intro snapshot
  have plain : ∀ input ∈ snapshot.keys, IsLine input := by decide
  have shared : ¬ snapshot.keys.Pairwise fun a b => ¬ SameButDashes a b := by decide
  refine ⟨plain, by decide, ?_, ?_⟩
  · rwa [nodup_graphNames_graphValues plain]
  · rwa [nodup_graphNames_graphConfig plain]

end MuxConsole.Report
