import MuxConsole.Proofs.Report.Graphs

/-!
# What a fetch shows

Of each input a fetch shows the readings that there are, each of them once and nothing else,
with one exception: a slow peak that is known for one channel only is left out.
-/

namespace MuxConsole.Report

open Text

variable {expiry : Option String} {snapshot : Input.Snapshot} {input : String}
  {stat : Input.Stat}

/-! ## Readings -/

inductive Reading (stat : Input.Stat) : GraphKind → String → String → Prop where
  | high : Reading stat .buffers "high" (toString stat.maxFill.toInt)
  | low : Reading stat .buffers "low" (toString stat.minFill.toInt)
  | underruns : Reading stat .counters "underruns" (toString stat.underruns.toNat)
  | overruns : Reading stat .counters "overruns" (toString stat.overruns.toNat)
  | left : Reading stat .levels "left" (toString stat.peakLeft.toInt)
  | right : Reading stat .levels "right" (toString stat.peakRight.toInt)
  | leftSlow {peak : Int32} (known : stat.peakLeftSlow = some peak) :
      Reading stat .levels "left_slow" (toString peak.toInt)
  | rightSlow {peak : Int32} (known : stat.peakRightSlow = some peak) :
      Reading stat .levels "right_slow" (toString peak.toInt)
  | state {state : Input.State} (known : stat.state = some state) :
      Reading stat .state "state" (toString state.code)

def HasSlowPeaks (stat : Input.Stat) : Prop :=
  stat.peakLeftSlow.isSome ∧ stat.peakRightSlow.isSome

def ShownReading (stat : Input.Stat) (kind : GraphKind) (field value : String) : Prop :=
  Reading stat kind field value ∧ (field ∈ ["left_slow", "right_slow"] → HasSlowPeaks stat)

def Paired (stat : Input.Stat) : Prop :=
  stat.peakLeftSlow.isSome = stat.peakRightSlow.isSome

instance (stat : Input.Stat) : Decidable (Paired stat) :=
  inferInstanceAs (Decidable (stat.peakLeftSlow.isSome = stat.peakRightSlow.isSome))

theorem Reading.isSome_left {kind : GraphKind} {value : String}
    (h : Reading stat kind "left_slow" value) : stat.peakLeftSlow.isSome := by
  generalize same : "left_slow" = field at h
  cases h with
  | leftSlow known => exact Option.isSome_of_eq_some known
  | _ => exact absurd same (by decide)

theorem Reading.isSome_right {kind : GraphKind} {value : String}
    (h : Reading stat kind "right_slow" value) : stat.peakRightSlow.isSome := by
  generalize same : "right_slow" = field at h
  cases h with
  | rightSlow known => exact Option.isSome_of_eq_some known
  | _ => exact absurd same (by decide)

theorem paired_iff : Paired stat ↔
    ∀ kind field value, ShownReading stat kind field value ↔ Reading stat kind field value := by
  constructor
  · intro paired kind field value
    refine ⟨And.left, fun reading => ⟨reading, fun slow => ?_⟩⟩
    simp only [List.mem_cons, List.not_mem_nil, or_false] at slow
    obtain rfl | rfl := slow
    · exact ⟨reading.isSome_left, paired ▸ reading.isSome_left⟩
    · exact ⟨(Eq.symm paired) ▸ reading.isSome_right, reading.isSome_right⟩
  · intro shown
    rw [Paired, Bool.eq_iff_iff]
    constructor
    · intro left
      obtain ⟨peak, known⟩ := Option.isSome_iff_exists.mp left
      exact (((shown _ _ _).mpr (.leftSlow known)).2 (by decide)).2
    · intro right
      obtain ⟨peak, known⟩ := Option.isSome_iff_exists.mp right
      exact (((shown _ _ _).mpr (.rightSlow known)).2 (by decide)).1

/-! ## Reports on inputs -/

def printed (part : List Block) : List (String × String × String) :=
  part.flatMap fun block => block.values.map fun entry => (block.graph, entry)

/-- A part of a fetch that shows each of the given readings of an input once, in the graphs
that these belong to, and nothing else. -/
structure Reports (input : String) (stat : Input.Stat)
    (shown : GraphKind → String → String → Prop) (part : List Block) : Prop where
  graphs : part.map (·.graph) = (GraphKind.known stat).map (·.graphName input)
  once : (printed part).Nodup
  exactly : ∀ kind field value,
    (kind.graphName input, field, value) ∈ printed part ↔ shown kind field value

def shownReadings (stat : Input.Stat) : List (GraphKind × String × String) :=
  [(.buffers, "high", toString stat.maxFill.toInt),
    (.buffers, "low", toString stat.minFill.toInt),
    (.counters, "underruns", toString stat.underruns.toNat),
    (.counters, "overruns", toString stat.overruns.toNat),
    (.levels, "left", toString stat.peakLeft.toInt),
    (.levels, "right", toString stat.peakRight.toInt)] ++
  (slowPeaks stat).map (fun entry => (.levels, entry)) ++
  (stat.state.map fun state => (.state, "state", toString state.code)).toList

theorem printed_statBlocks (input : String) (stat : Input.Stat) :
    printed (statBlocks input stat) =
      (shownReadings stat).map fun reading => (reading.1.graphName input, reading.2) := by
  have state : (stateBlock (graphIdent input) stat.state).flatMap
        (fun block => block.values.map fun entry => (block.graph, entry)) =
      ((stat.state.map fun state => (GraphKind.state, "state", toString state.code)).toList.map
        fun reading => (reading.1.graphName input, reading.2)) := by
    cases stat.state <;> rfl
  rw [printed, statBlocks, List.flatMap_append, state, shownReadings, List.map_append,
    List.map_append, List.map_map]
  simp only [List.flatMap_cons, List.flatMap_nil, List.map_append, List.append_nil,
    List.append_assoc]
  rfl

theorem mem_slowPeaks {entry : String × String} (h : entry ∈ slowPeaks stat) :
    HasSlowPeaks stat ∧ Reading stat .levels entry.1 entry.2 := by
  unfold slowPeaks at h
  split at h
  · rename_i left right hleft hright
    have both : HasSlowPeaks stat :=
      ⟨Option.isSome_of_eq_some hleft, Option.isSome_of_eq_some hright⟩
    simp only [List.mem_cons, List.not_mem_nil, or_false] at h
    obtain rfl | rfl := h
    · exact ⟨both, .leftSlow hleft⟩
    · exact ⟨both, .rightSlow hright⟩
  · cases h

theorem shown_of_mem {kind : GraphKind} {field value : String}
    (h : (kind, field, value) ∈ shownReadings stat) : ShownReading stat kind field value := by
  rcases List.mem_append.mp h with h | state
  · rcases List.mem_append.mp h with always | slow
    · simp only [List.mem_cons, Prod.mk.injEq, List.not_mem_nil, or_false] at always
      obtain ⟨rfl, rfl, rfl⟩ | ⟨rfl, rfl, rfl⟩ | ⟨rfl, rfl, rfl⟩ | ⟨rfl, rfl, rfl⟩ |
        ⟨rfl, rfl, rfl⟩ | ⟨rfl, rfl, rfl⟩ := always
      · exact ⟨.high, fun slow => absurd slow (by decide)⟩
      · exact ⟨.low, fun slow => absurd slow (by decide)⟩
      · exact ⟨.underruns, fun slow => absurd slow (by decide)⟩
      · exact ⟨.overruns, fun slow => absurd slow (by decide)⟩
      · exact ⟨.left, fun slow => absurd slow (by decide)⟩
      · exact ⟨.right, fun slow => absurd slow (by decide)⟩
    · obtain ⟨_, member, same⟩ := List.mem_map.mp slow
      cases same
      obtain ⟨both, reading⟩ := mem_slowPeaks member
      exact ⟨reading, fun _ => both⟩
  · obtain ⟨_, known, same⟩ := Option.map_eq_some_iff.mp (Option.mem_toList.mp state)
    cases same
    exact ⟨.state known, fun slow => absurd slow (by decide)⟩

theorem mem_of_shown {kind : GraphKind} {field value : String}
    (h : ShownReading stat kind field value) : (kind, field, value) ∈ shownReadings stat := by
  obtain ⟨reading, paired⟩ := h
  cases reading with
  | leftSlow known =>
      obtain ⟨other, hother⟩ := Option.isSome_iff_exists.mp (paired (by decide)).2
      simp [shownReadings, slowPeaks, known, hother]
  | rightSlow known =>
      obtain ⟨other, hother⟩ := Option.isSome_iff_exists.mp (paired (by decide)).1
      simp [shownReadings, slowPeaks, known, hother]
  | state known => simp [shownReadings, known]
  | _ => simp [shownReadings]

theorem nodup_shownReadings (stat : Input.Stat) : (shownReadings stat).Nodup := by
  refine List.Nodup.of_map (fun reading => reading.2.1) ?_
  unfold shownReadings slowPeaks
  cases stat.state <;> split <;> simp

theorem reports_statBlocks (input : String) (stat : Input.Stat) :
    Reports input stat (ShownReading stat) (statBlocks input stat) where
  graphs := map_graph_statBlocks input stat
  once := by
    rw [printed_statBlocks]
    refine List.Nodup.map_on ?_ (nodup_shownReadings stat)
    rintro ⟨kind, entry⟩ _ ⟨other, third⟩ _ same
    obtain ⟨names, entries⟩ : kind.graphName input = other.graphName input ∧ entry = third :=
      Prod.mk.inj same
    rw [(GraphKind.graphName_eq_iff.mp names).1, entries]
  exactly := by
    intro kind field value
    rw [printed_statBlocks, List.mem_map]
    constructor
    · rintro ⟨⟨other, entry⟩, member, same⟩
      obtain ⟨names, rfl⟩ := Prod.mk.inj same
      rw [← (GraphKind.graphName_eq_iff.mp names).1]
      exact shown_of_mem member
    · exact fun shown => ⟨_, mem_of_shown shown, rfl⟩

theorem reports_readings_iff :
    Reports input stat (Reading stat) (statBlocks input stat) ↔ Paired stat := by
  have report := reports_statBlocks input stat
  rw [paired_iff]
  constructor
  · exact fun all kind field value =>
      (report.exactly kind field value).symm.trans (all.exactly kind field value)
  · exact fun same => ⟨report.graphs, report.once, fun kind field value =>
      (report.exactly kind field value).trans (same kind field value)⟩

/-! ## Fetches -/

/-- After the seconds until expiry, the fetch reports on the inputs of the snapshot in their
order, on each with the given readings. -/
def Fetches (shown : Input.Stat → GraphKind → String → String → Prop) (expiry : Option String)
    (snapshot : Input.Snapshot) : Prop :=
  ∃ parts : List (List Block),
    readBlocks (graphValues expiry snapshot) =
      some (⟨expiryGraph.name, [("expiry", expiryValue expiry)]⟩ :: parts.flatten) ∧
    List.Forall₂ (fun entry part => Reports entry.1 entry.2 (shown entry.2) part)
      snapshot.entries parts

theorem parts_eq {shown : Input.Stat → GraphKind → String → String → Prop}
    {parts : List (List Block)}
    (report : List.Forall₂ (fun entry part => Reports entry.1 entry.2 (shown entry.2) part)
      snapshot.entries parts)
    (written : parts.flatten =
      (snapshot.entries.map fun entry => statBlocks entry.1 entry.2).flatten) :
    parts = snapshot.entries.map fun entry => statBlocks entry.1 entry.2 := by
  -- Equal lists of lists are those of equal contents and of equal lengths.
  refine List.eq_iff_flatten_eq.mpr ⟨written, ?_⟩
  rw [← List.forall₂_eq_eq_eq, List.map_map, List.forall₂_map_left_iff,
    List.forall₂_map_right_iff]
  refine report.flip.imp fun part entry h => ?_
  have names := h.graphs.trans (map_graph_statBlocks entry.1 entry.2).symm
  simpa using congrArg List.length names

theorem blocks_eq (expiry : Option String) (snapshot : Input.Snapshot) :
    blocks expiry snapshot = ⟨expiryGraph.name, [("expiry", expiryValue expiry)]⟩ ::
      (snapshot.entries.map fun entry => statBlocks entry.1 entry.2).flatten := by
  rw [blocks, List.flatMap_def]

theorem fetches_iff (plain : ∀ input ∈ snapshot.keys, IsLine input)
    {shown : Input.Stat → GraphKind → String → String → Prop} :
    Fetches shown expiry snapshot ↔ ∀ entry ∈ snapshot.entries,
      Reports entry.1 entry.2 (shown entry.2) (statBlocks entry.1 entry.2) := by
  rw [Fetches, readBlocks_graphValues plain, blocks_eq]
  constructor
  · rintro ⟨parts, written, report⟩
    have same := (List.cons.inj (Option.some.inj written)).2
    rw [parts_eq report same.symm, List.forall₂_map_right_iff, List.forall₂_same] at report
    exact report
  · intro report
    refine ⟨_, rfl, ?_⟩
    rw [List.forall₂_map_right_iff, List.forall₂_same]
    exact report

/-- A fetch shows the readings of every input in order, a slow peak only along with that of
the other channel.  So it shows all readings exactly if no slow peak is alone. -/
theorem fetch_shows_readings (expiry : Option String) {snapshot : Input.Snapshot}
    (plain : ∀ input ∈ snapshot.keys, IsLine input) :
    Fetches ShownReading expiry snapshot ∧
      (Fetches Reading expiry snapshot ↔ ∀ entry ∈ snapshot.entries, Paired entry.2) := by
  rw [fetches_iff plain, fetches_iff plain]
  refine ⟨fun entry _ => reports_statBlocks entry.1 entry.2, ?_⟩
  exact forall₂_congr fun entry _ => reports_readings_iff

/-- All readings of two inputs are shown, one with both slow peaks and one with none. -/
theorem fetch_shows_readings_of_two :
    let late : Input.Stat := { Input.Stat.start with
      minFill := -1, underruns := 7, peakLeftSlow := some (-8), peakRightSlow := some (-9),
      state := some .streaming }
    let snapshot : Input.Snapshot := ⟨[("early", .start), ("late-1", late)], by decide⟩
    Fetches Reading (some "in 42 s") snapshot := by
  intro late snapshot
  exact (fetch_shows_readings (some "in 42 s") (by decide)).2.mpr (by decide)

/-- The slow peak of one channel is known, and is not shown. -/
theorem lone_slow_peak_left_out :
    let stat : Input.Stat := { Input.Stat.start with peakLeftSlow := some (-8) }
    let snapshot : Input.Snapshot := ⟨[("in", stat)], by decide⟩
    (∀ input ∈ snapshot.keys, IsLine input) ∧ Reading stat .levels "left_slow" "-8" ∧
      ¬ Fetches Reading none snapshot := by
  intro stat snapshot
  have plain : ∀ input ∈ snapshot.keys, IsLine input := by decide
  have text : toString (-8 : Int32).toInt = "-8" := by decide
  refine ⟨plain, text ▸ .leftSlow rfl, ?_⟩
  rw [fetches_iff plain]
  intro report
  exact absurd (reports_readings_iff.mp (report _ List.mem_cons_self)) (by decide)

end MuxConsole.Report
