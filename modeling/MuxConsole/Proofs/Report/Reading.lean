import MuxConsole.Proofs.Text.Lines
import MuxConsole.Report.Graph

/-!
# Reading graphs

A monitoring node reads lines.  Each graph is begun by a line with its name.  In a block of
values every other line gives one to a field; in a definition some lines say things of the
graph, and some say things of a field, its label among them.
-/

namespace MuxConsole.Report

open Text

/-! ## Lines about a field -/

def isNameChar (c : Char) : Bool := c != '.' && c != ' ' && c != '\n'

abbrev IsName (text : String) : Prop := ∀ c ∈ text.toList, isNameChar c = true

theorem IsName.isLine {text : String} (h : IsName text) : IsLine text :=
  fun newline => absurd (h _ newline) (by decide)

theorem isName_ofList {chars : List Char} (h : chars.all isNameChar = true) :
    IsName (String.ofList chars) := by
  rw [IsName, String.toList_ofList]
  exact List.all_eq_true.mp h

structure Remark where
  field : String
  key : String
  value : String

def Remark.line (remark : Remark) : String :=
  s!"{remark.field}.{remark.key} {remark.value}"

def remark? (line : String) : Option Remark :=
  match line.toList.dropWhile isNameChar with
  | '.' :: rest =>
      match rest.dropWhile isNameChar with
      | ' ' :: value =>
          some ⟨String.ofList (line.toList.takeWhile isNameChar),
            String.ofList (rest.takeWhile isNameChar), String.ofList value⟩
      | _ => none
  | _ => none

theorem dropWhile_name {name : String} (h : IsName name) {c : Char} (apart : isNameChar c = false)
    (rest : List Char) : (name.toList ++ c :: rest).dropWhile isNameChar = c :: rest := by
  rw [List.dropWhile_append_of_pos h, List.dropWhile_cons_of_neg (by simp [apart])]

theorem takeWhile_name {name : String} (h : IsName name) {c : Char} (apart : isNameChar c = false)
    (rest : List Char) : (name.toList ++ c :: rest).takeWhile isNameChar = name.toList := by
  rw [List.takeWhile_append_of_pos h, List.takeWhile_cons_of_neg (by simp [apart]),
    List.append_nil]

theorem Remark.toList_line (remark : Remark) :
    remark.line.toList = remark.field.toList ++
      '.' :: (remark.key.toList ++ ' ' :: remark.value.toList) := by
  simp [line, toString]

theorem remark?_line {remark : Remark} (field : IsName remark.field)
    (key : IsName remark.key) : remark? remark.line = some remark := by
  have dot : isNameChar '.' = false := by decide
  have blank : isNameChar ' ' = false := by decide
  simp only [remark?, remark.toList_line, dropWhile_name field dot, takeWhile_name field dot,
    dropWhile_name key blank, takeWhile_name key blank, String.ofList_toList]

/-- The field of a line that says something under the given key, and what it says. -/
def said? (key line : String) : Option (String × String) :=
  match remark? line with
  | some remark => if remark.key = key then some (remark.field, remark.value) else none
  | none => none

theorem said?_line {field key : String} (hfield : IsName field) (hkey : IsName key)
    (value : String) : said? key (Remark.line ⟨field, key, value⟩) = some (field, value) := by
  have said : remark? (Remark.line ⟨field, key, value⟩) = some ⟨field, key, value⟩ :=
    remark?_line hfield hkey
  rw [said?, said]
  exact if_pos rfl

theorem Remark.isLine_line {remark : Remark} (field : IsName remark.field)
    (key : IsName remark.key) (value : IsLine remark.value) : IsLine remark.line := by
  rw [IsLine, toList_line]
  simp only [List.mem_append, List.mem_cons, not_or]
  exact ⟨field.isLine, by decide, key.isLine, by decide, value⟩

/-! ## Sections -/

def header? (line : String) : Option String := after? "multigraph " line

/-- A line that begins a graph has a blank after its first word, and no dot. -/
theorem header?_line {remark : Remark} (field : IsName remark.field) :
    header? remark.line = none := by
  cases found : header? remark.line with
  | none => rfl
  | some name =>
      -- After its first word the line would go on with a dot and with a blank.
      have begins : remark.line.toList = "multigraph".toList ++ ' ' :: name.toList := by
        rw [eq_append_of_after? found]
        simp
      have word : IsName "multigraph" := isName_ofList (by decide)
      have blank : isNameChar ' ' = false := by decide
      have rest := dropWhile_name word blank name.toList
      rw [← begins, remark.toList_line, dropWhile_name field (by decide)] at rest
      exact absurd (List.cons.inj rest).1 (by decide)

structure Section where
  name : String
  body : List String

def sections : List String → List String × List Section
  | [] => ([], [])
  | line :: rest =>
      match header? line with
      | some name => ([], ⟨name, (sections rest).1⟩ :: (sections rest).2)
      | none => (line :: (sections rest).1, (sections rest).2)

theorem sections_header (name : String) (rest : List String) :
    sections (("multigraph " ++ name) :: rest) =
      ([], ⟨name, (sections rest).1⟩ :: (sections rest).2) := by
  rw [sections, header?, after?_append]

theorem sections_append {body : List String} (h : ∀ line ∈ body, header? line = none)
    (rest : List String) :
    sections (body ++ rest) = (body ++ (sections rest).1, (sections rest).2) := by
  induction body with
  | nil => rfl
  | cons line body ih =>
      obtain ⟨first, others⟩ := List.forall_mem_cons.mp h
      rw [List.cons_append, sections, first, ih others]
      rfl

theorem mem_sections_append (before : List String) {rest : List String} {part : Section}
    (h : part ∈ (sections rest).2) : part ∈ (sections (before ++ rest)).2 := by
  induction before with
  | nil => exact h
  | cons line before ih =>
      rw [List.cons_append, sections]
      split
      · exact List.mem_cons_of_mem _ ih
      · exact ih

def graphNames (text : String) : List String := (lines text).filterMap header?

/-! ## Values -/

def Section.block? (part : Section) : Option Block :=
  (part.body.mapM (said? "value")).map fun values => ⟨part.name, values⟩

/-- The blocks of a text in which every line but the first one of a graph gives a value. -/
def readBlocks (text : String) : Option (List Block) :=
  match sections (lines text) with
  | ([], parts) => parts.mapM Section.block?
  | _ => none

def Block.body (block : Block) : List String :=
  block.values.map fun (field, value) => Remark.line ⟨field, "value", value⟩

theorem Block.lines_eq (block : Block) :
    block.lines = ("multigraph " ++ block.graph) :: block.body := by
  refine congrArg _ (List.map_congr_left fun entry _ => ?_)
  apply String.toList_injective
  rw [Remark.toList_line]
  simp [toString]

structure Block.IsPlain (block : Block) : Prop where
  graph : IsLine block.graph
  values : ∀ entry ∈ block.values, IsName entry.1 ∧ IsLine entry.2

namespace Block.IsPlain

variable {block : Block}

theorem isLine (h : block.IsPlain) : ∀ line ∈ block.lines, IsLine line := by
  intro line member
  rw [Block.lines_eq] at member
  rcases List.mem_cons.mp member with rfl | member
  · exact isLine_ofList_append (by decide) h.graph
  · obtain ⟨entry, hentry, rfl⟩ := List.mem_map.mp member
    obtain ⟨field, value⟩ := h.values entry hentry
    exact Remark.isLine_line field (isName_ofList (by decide)) value

theorem header?_body (h : block.IsPlain) : ∀ line ∈ block.body, header? line = none := by
  intro line member
  obtain ⟨entry, hentry, rfl⟩ := List.mem_map.mp member
  exact header?_line (h.values entry hentry).1

theorem filterMap_header? (h : block.IsPlain) :
    block.lines.filterMap header? = [block.graph] := by
  rw [Block.lines_eq, List.filterMap_cons, header?, after?_append,
    List.filterMap_eq_nil_iff.mpr h.header?_body]

theorem said?_body (h : block.IsPlain) : ∀ entry ∈ block.values,
    said? "value" (Remark.line ⟨entry.1, "value", entry.2⟩) = some entry := by
  intro entry member
  have key : IsName "value" := isName_ofList (by decide)
  exact said?_line (h.values entry member).1 key entry.2

end Block.IsPlain

theorem mapM_of_forall {α β : Type} {f : β → Option α} {g : α → β} {items : List α}
    (h : ∀ item ∈ items, f (g item) = some item) : (items.map g).mapM f = some items := by
  induction items with
  | nil => rfl
  | cons item rest ih =>
      obtain ⟨first, others⟩ := List.forall_mem_cons.mp h
      rw [List.map_cons, List.mapM_cons, first, ih others]
      rfl

theorem sections_blocks {written : List Block} (h : ∀ block ∈ written, block.IsPlain) :
    sections (written.flatMap (·.lines)) =
      ([], written.map fun block => ⟨block.graph, block.body⟩) := by
  induction written with
  | nil => rfl
  | cons block rest ih =>
      obtain ⟨first, others⟩ := List.forall_mem_cons.mp h
      rw [List.flatMap_cons, Block.lines_eq, List.cons_append, sections_header,
        sections_append first.header?_body, ih others, List.append_nil, List.map_cons]

theorem lines_blocks {written : List Block} (h : ∀ block ∈ written, block.IsPlain) :
    lines (unlines (written.flatMap (·.lines))) = written.flatMap (·.lines) := by
  refine lines_unlines_of_isLine fun line member => ?_
  obtain ⟨block, hblock, shown⟩ := List.mem_flatMap.mp member
  exact (h block hblock).isLine line shown

theorem readBlocks_blocks {written : List Block} (h : ∀ block ∈ written, block.IsPlain) :
    readBlocks (unlines (written.flatMap (·.lines))) = some written := by
  rw [readBlocks, lines_blocks h, sections_blocks h]
  refine mapM_of_forall fun block member => ?_
  have values : block.body.mapM (said? "value") = some block.values :=
    mapM_of_forall (h block member).said?_body
  rw [Section.block?, values, Option.map_some]

theorem graphNames_blocks {written : List Block} (h : ∀ block ∈ written, block.IsPlain) :
    graphNames (unlines (written.flatMap (·.lines))) = written.map (·.graph) := by
  rw [graphNames, lines_blocks h, List.filterMap_flatMap, List.map_eq_flatMap]
  exact List.flatMap_congr fun block member => (h block member).filterMap_header?

/-! ## Definitions -/

structure Definition where
  graph : String
  order : List String
  labelled : List String

def words (text : String) : List String := (text.toList.splitOn ' ').map String.ofList

def Section.definition (part : Section) : Definition where
  graph := part.name
  order := ((part.body.findSome? (after? "graph_order ")).map words).getD []
  labelled := (part.body.filterMap (said? "label")).map (·.1)

def readDefinitions (text : String) : List Definition :=
  (sections (lines text)).2.map Section.definition

theorem words_intercalate {names : List String} (h : ∀ name ∈ names, IsName name)
    (nonempty : names ≠ []) : words (" ".intercalate names) = names := by
  have apart : ∀ chars ∈ names.map String.toList, ' ' ∉ chars := by
    intro chars member blank
    obtain ⟨name, hname, rfl⟩ := List.mem_map.mp member
    exact absurd (h name hname _ blank) (by decide)
  have chars : (" ".intercalate names).toList = [' '].intercalate (names.map String.toList) :=
    String.toList_intercalate
  rw [words, chars, List.splitOn_intercalate ' ' apart (by simpa using nonempty), List.map_map]
  exact (List.map_congr_left fun name _ => String.ofList_toList).trans (List.map_id names)

structure GraphField.IsPlain (field : GraphField) : Prop where
  name : IsName field.name
  attributes : ∀ entry ∈ field.attributes, IsName entry.1 ∧ IsLine entry.2
  labelled : "label" ∈ field.attributes.map (·.1)

structure Graph.IsPlain (graph : Graph) : Prop where
  name : IsLine graph.name
  title : IsLine graph.title
  args : IsLine graph.args
  verticalLabel : IsLine graph.verticalLabel
  category : IsLine graph.category
  info : IsLine graph.info
  fields : ∀ field ∈ graph.fields, field.IsPlain
  drawn : graph.fields ≠ []
  ordered : graph.order = " ".intercalate (graph.fields.map (·.name))

def Graph.body (graph : Graph) : List String := [
  "graph_title " ++ graph.title,
  "graph_order " ++ graph.order,
  "graph_args " ++ graph.args,
  "graph_vlabel " ++ graph.verticalLabel,
  "graph_category " ++ graph.category,
  "graph_info " ++ graph.info,
  ""] ++ graph.fields.flatMap (·.lines)

theorem Graph.lines_eq (graph : Graph) :
    graph.lines = "" :: ("multigraph " ++ graph.name) :: graph.body := rfl

theorem GraphField.lines_eq (field : GraphField) : field.lines =
    field.attributes.map fun (key, value) => Remark.line ⟨field.name, key, value⟩ := rfl

namespace Graph.IsPlain

variable {graph : Graph}

theorem words_order (h : graph.IsPlain) :
    words graph.order = graph.fields.map (·.name) := by
  rw [h.ordered]
  refine words_intercalate ?_ (by simpa using h.drawn)
  intro name member
  obtain ⟨field, hfield, rfl⟩ := List.mem_map.mp member
  exact (h.fields field hfield).name

theorem exists_remark (h : graph.IsPlain) {line : String}
    (member : line ∈ graph.fields.flatMap (·.lines)) :
    ∃ remark : Remark, line = remark.line ∧ IsName remark.field ∧
      IsName remark.key ∧ IsLine remark.value := by
  obtain ⟨field, hfield, shown⟩ := List.mem_flatMap.mp member
  rw [GraphField.lines_eq] at shown
  obtain ⟨entry, hentry, rfl⟩ := List.mem_map.mp shown
  obtain ⟨key, value⟩ := (h.fields field hfield).attributes entry hentry
  exact ⟨_, rfl, (h.fields field hfield).name, key, value⟩

theorem isLine_body (h : graph.IsPlain) : ∀ line ∈ graph.body, IsLine line := by
  have order : IsLine graph.order := by
    rw [h.ordered]
    refine isLine_intercalate (isLine_ofList (by decide)) fun name member => ?_
    obtain ⟨field, hfield, rfl⟩ := List.mem_map.mp member
    exact (h.fields field hfield).name.isLine
  intro line member
  rcases List.mem_append.mp member with said | shown
  · simp only [List.mem_cons, List.not_mem_nil, or_false] at said
    obtain rfl | rfl | rfl | rfl | rfl | rfl | rfl := said
    · exact isLine_ofList_append (by decide) h.title
    · exact isLine_ofList_append (by decide) order
    · exact isLine_ofList_append (by decide) h.args
    · exact isLine_ofList_append (by decide) h.verticalLabel
    · exact isLine_ofList_append (by decide) h.category
    · exact isLine_ofList_append (by decide) h.info
    · exact isLine_ofList List.not_mem_nil
  · obtain ⟨remark, rfl, field, key, value⟩ := h.exists_remark shown
    exact Remark.isLine_line field key value

theorem isLine (h : graph.IsPlain) : ∀ line ∈ graph.lines, IsLine line := by
  rw [Graph.lines_eq]
  refine List.forall_mem_cons.mpr ⟨isLine_ofList List.not_mem_nil,
    List.forall_mem_cons.mpr ⟨?_, h.isLine_body⟩⟩
  exact isLine_ofList_append (by decide) h.name

theorem header?_body (h : graph.IsPlain) : ∀ line ∈ graph.body, header? line = none := by
  intro line member
  rcases List.mem_append.mp member with said | shown
  · simp only [List.mem_cons, List.not_mem_nil, or_false] at said
    obtain rfl | rfl | rfl | rfl | rfl | rfl | rfl := said
    · exact after?_of_apart (by decide) _
    · exact after?_of_apart (by decide) _
    · exact after?_of_apart (by decide) _
    · exact after?_of_apart (by decide) _
    · exact after?_of_apart (by decide) _
    · exact after?_of_apart (by decide) _
    · rfl
  · obtain ⟨remark, rfl, field, _⟩ := h.exists_remark shown
    exact header?_line field

theorem filterMap_header? (h : graph.IsPlain) :
    graph.lines.filterMap header? = [graph.name] := by
  have blank : header? "" = none := rfl
  have body : graph.body.filterMap header? = [] := List.filterMap_eq_nil_iff.mpr h.header?_body
  rw [Graph.lines_eq, List.filterMap_cons, blank]
  dsimp only
  rw [List.filterMap_cons, header?, after?_append, body]

theorem exists_label (h : graph.IsPlain) {field : GraphField} (member : field ∈ graph.fields) :
    ∃ label, (field.name, label) ∈ graph.body.filterMap (said? "label") := by
  obtain ⟨⟨key, label⟩, said, rfl⟩ := List.mem_map.mp (h.fields field member).labelled
  refine ⟨label, List.mem_filterMap.mpr ⟨Remark.line ⟨field.name, "label", label⟩, ?_, ?_⟩⟩
  · refine List.mem_append_right _ (List.mem_flatMap.mpr ⟨field, member, ?_⟩)
    rw [GraphField.lines_eq]
    exact List.mem_map.mpr ⟨("label", label), said, rfl⟩
  · have key : IsName "label" := isName_ofList (by decide)
    exact said?_line (h.fields field member).name key label

theorem definition (h : graph.IsPlain) (more : List String) :
    (Section.definition ⟨graph.name, graph.body ++ more⟩).order = graph.fields.map (·.name) ∧
      ∀ field ∈ graph.fields,
        field.name ∈ (Section.definition ⟨graph.name, graph.body ++ more⟩).labelled := by
  constructor
  · have title : after? "graph_order " ("graph_title " ++ graph.title) = none :=
      after?_of_apart (by decide) _
    rw [Section.definition, Graph.body]
    simp only [List.cons_append, List.findSome?_cons, title, after?_append, Option.map_some,
      Option.getD_some, h.words_order]
  · intro field member
    obtain ⟨label, said⟩ := h.exists_label member
    rw [Section.definition, List.filterMap_append]
    exact List.mem_map.mpr ⟨_, List.mem_append_left _ said, rfl⟩

end Graph.IsPlain

/-- The definition of a graph is found among others, whatever these are. -/
theorem exists_definition {defined : List Graph} {graph : Graph} (member : graph ∈ defined)
    (plain : graph.IsPlain) :
    ∃ definition ∈ readDefinitions (unlines (defined.flatMap (·.lines))),
      definition.graph = graph.name ∧ definition.order = graph.fields.map (·.name) ∧
        ∀ field ∈ graph.fields, field.name ∈ definition.labelled := by
  obtain ⟨before, after, rfl⟩ := List.append_of_mem member
  -- Lines of other graphs may have newlines in them, so they are read in pieces.
  let rest := (after.flatMap (·.lines)).flatMap pieces
  let part : Section := ⟨graph.name, graph.body ++ (sections rest).1⟩
  refine ⟨part.definition, List.mem_map_of_mem ?_, rfl, plain.definition _⟩
  have printed : lines (unlines ((before ++ graph :: after).flatMap (·.lines))) =
      ((before.flatMap (·.lines)).flatMap pieces ++ [""]) ++
        ("multigraph " ++ graph.name) :: (graph.body ++ rest) := by
    rw [lines_unlines, List.flatMap_append, List.flatMap_cons, List.flatMap_append,
      List.flatMap_append, flatMap_pieces plain.isLine, Graph.lines_eq]
    simp [rest]
  rw [printed]
  -- What follows begins a section of its own or still belongs to this one.
  apply mem_sections_append
  rw [sections_header, sections_append plain.header?_body]
  exact List.mem_cons_self

theorem graphNames_graphs {defined : List Graph} (h : ∀ graph ∈ defined, graph.IsPlain) :
    graphNames (unlines (defined.flatMap (·.lines))) = defined.map (·.name) := by
  have plain : ∀ line ∈ defined.flatMap (·.lines), IsLine line := by
    intro line member
    obtain ⟨graph, hgraph, shown⟩ := List.mem_flatMap.mp member
    exact (h graph hgraph).isLine line shown
  rw [graphNames, lines_unlines_of_isLine plain, List.filterMap_flatMap, List.map_eq_flatMap]
  exact List.flatMap_congr fun graph member => (h graph member).filterMap_header?

end MuxConsole.Report
