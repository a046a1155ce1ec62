import MuxConsole.Input.Snapshot
import MuxConsole.Text.Digit
import MuxConsole.Text.Lines

/-!
# Graphs for monitoring

A monitoring node draws several graphs per input.  It asks for their definitions
once and for their values again and again.  The two are printed separately: a
definition lists the fields of a graph, a block of values names the graph and
gives a value to each field that there is a reading for.
-/

namespace MuxConsole.Report

/-! ## Definitions -/

structure GraphField where
  name : String
  /-- Its label is among them. -/
  attributes : List (String × String)
deriving DecidableEq, Repr

structure Graph where
  name : String
  title : String
  /-- The names of the fields, in the order in which they are drawn. -/
  order : String
  args : String
  verticalLabel : String
  category : String
  info : String
  fields : List GraphField
deriving DecidableEq, Repr

def GraphField.lines (field : GraphField) : List String :=
  field.attributes.map fun (key, value) => s!"{field.name}.{key} {value}"

def Graph.lines (graph : Graph) : List String := [
  "",
  s!"multigraph {graph.name}",
  s!"graph_title {graph.title}",
  s!"graph_order {graph.order}",
  s!"graph_args {graph.args}",
  s!"graph_vlabel {graph.verticalLabel}",
  s!"graph_category {graph.category}",
  s!"graph_info {graph.info}",
  ""] ++ graph.fields.flatMap (·.lines)

/-- Dashes are not allowed in the name of a graph. -/
def graphIdent (ident : String) : String :=
  String.ofList (ident.toList.map fun c => if c = '-' then '_' else c)

def graphPeriod : String := "$\x7bgraph_period\x7d"

def expiryWarning : Nat := 3600 * 24 * 30

def expiryGraph : Graph where
  name := "clocktai_expiry"
  title := "Time to expiry for TAI bulletin"
  order := "expiry"
  args := "--base 1000"
  verticalLabel := "Number of seconds until expiry"
  category := "dabmux"
  info := "This graph shows the number of remaining seconds this bulletin is valid"
  fields := [
    ⟨"expiry", [("info", "Seconds until expiry"), ("label", "Seconds until expiry"),
      ("min", "0"), ("warning", s!"{expiryWarning}:")]⟩]

def bufferField (name info label : String) : GraphField :=
  ⟨name, [("info", info), ("label", label), ("min", "0"), ("warning", "1:")]⟩

def bufferGraph (ident : String) : Graph where
  name := s!"buffers_{ident}"
  title := s!"Contribution {ident} buffer"
  order := "high low"
  args := "--base 1000"
  verticalLabel := s!"max/min buffer size bytes during last {graphPeriod}"
  category := "dabmux"
  info := s!"This graph shows the high and low buffer sizes for the {ident} ZMQ input"
  fields := [
    bufferField "high" "Max buffer size" "Max Buffer Bytes",
    bufferField "low" "Min buffer size" "Min Buffer Bytes"]

def counterField (name info : String) : GraphField :=
  ⟨name, [("info", info), ("label", info), ("min", "0"), ("warning", "0:0"),
    ("type", "COUNTER")]⟩

def counterGraph (ident : String) : Graph where
  name := s!"over_underruns_{ident}"
  title := s!"Contribution {ident} over/underruns"
  order := "underruns overruns"
  args := "--base 1000 --logarithmic"
  verticalLabel := s!"number of underruns/overruns during last {graphPeriod}"
  category := "dabmux"
  info := s!"This graph shows the number of under/overruns for the {ident} ZMQ input"
  fields := [
    counterField "underruns" "Number of underruns",
    counterField "overruns" "Number of overruns"]

def levelField (name info label : String) : GraphField :=
  ⟨name, [("info", info), ("label", label), ("min", "-90"), ("max", "0"),
    ("warning", "-40:0"), ("critical", "-80:0")]⟩

def levelGraph (ident : String) : Graph where
  name := s!"audio_levels_{ident}"
  title := s!"Contribution {ident} audio level (peak)"
  order := "left left_slow right right_slow"
  args := "--base 1000"
  verticalLabel := s!"peak audio level during last {graphPeriod}"
  category := "encoders"
  info := "This graph shows the audio level and peak of both channels of the " ++
    s!"{ident} ZMQ input"
  fields := [
    levelField "left" "Left channel audio level" "Left level",
    levelField "left_slow" "Left channel audio peak over last 5 minutes" "Left peak",
    levelField "right" "Right channel audio level" "Right level",
    levelField "right_slow" "Right channel audio peak over last 5 minutes" "Right peak"]

def stateGraph (ident : String) : Graph where
  name := s!"state_{ident}"
  title := s!"State of contribution {ident}"
  order := "state"
  args := "--base 1000 --lower-limit 0 --upper-limit 5"
  verticalLabel := "Current state of the input"
  category := "dabmux"
  info := s!"This graph shows the state for the {ident} ZMQ input"
  fields := [
    ⟨"state", [("info", "Input state"),
      ("label", "0 Unknown, 1 NoData, 2 Unstable, 3 Silent, 4 Streaming"),
      ("warning", "4:4"), ("critical", "2:4")]⟩]

def inputGraphs (input : String) : List Graph :=
  let ident := graphIdent input
  [bufferGraph ident, counterGraph ident, levelGraph ident, stateGraph ident]

def graphs (inputs : List String) : List Graph :=
  expiryGraph :: inputs.flatMap inputGraphs

def graphConfig (inputs : List String) : String :=
  Text.unlines ((graphs inputs).flatMap (·.lines))

/-! ## Values -/

structure Block where
  graph : String
  values : List (String × String)
deriving DecidableEq, Repr

def Block.lines (block : Block) : List String :=
  s!"multigraph {block.graph}" ::
    block.values.map fun (field, value) => s!"{field}.value {value}"

/-- The seconds until the bulletin expires: the first digits of what the server
says about it, if anything. -/
def expiryValue (expiry : Option String) : String :=
  match expiry.map fun text => Text.firstDigits text.toList with
  | none | some [] => "U"
  | some digits => String.ofList digits

def slowPeaks (stat : Input.Stat) : List (String × String) :=
  match stat.peakLeftSlow, stat.peakRightSlow with
  | some left, some right =>
      [("left_slow", toString left.toInt), ("right_slow", toString right.toInt)]
  | _, _ => []

def stateBlock (ident : String) (state : Option Input.State) : List Block :=
  match state with
  | some state => [⟨s!"state_{ident}", [("state", toString state.code)]⟩]
  | none => []

def statBlocks (input : String) (stat : Input.Stat) : List Block :=
  let ident := graphIdent input
  [⟨s!"buffers_{ident}",
      [("high", toString stat.maxFill.toInt), ("low", toString stat.minFill.toInt)]⟩,
    ⟨s!"over_underruns_{ident}",
      [("underruns", toString stat.underruns.toNat),
        ("overruns", toString stat.overruns.toNat)]⟩,
    ⟨s!"audio_levels_{ident}",
      [("left", toString stat.peakLeft.toInt), ("right", toString stat.peakRight.toInt)] ++
        slowPeaks stat⟩] ++
  stateBlock ident stat.state

def blocks (expiry : Option String) (snapshot : Input.Snapshot) : List Block :=
  ⟨expiryGraph.name, [("expiry", expiryValue expiry)]⟩ ::
    snapshot.entries.flatMap fun (input, stat) => statBlocks input stat

def graphValues (expiry : Option String) (snapshot : Input.Snapshot) : String :=
  Text.unlines ((blocks expiry snapshot).flatMap (·.lines))

end MuxConsole.Report
