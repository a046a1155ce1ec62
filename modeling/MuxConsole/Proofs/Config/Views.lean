import MuxConsole.Config.View
import Mathlib.Data.List.Forall2

/-!
# Records are seen where they are laid out

The options of a record stand in the configuration under names of their own.  Once they
stand there the record is seen again, whatever stands beside them and in whatever order.
Only a section that is not there keeps a view from being built: an entry of any other form
is a record with nothing to it.
-/

namespace MuxConsole.Config

open Json

/-! ## Options -/

/-- An entry has this text for an option; an empty one may be null or missing. -/
inductive Has (entry : Members) (option : String) : String → Prop
  | text {s : String} (h : entry.get? option = some (.text s)) : Has entry option s
  | null (h : entry.get? option = some .null) : Has entry option ""
  | missing (h : entry.get? option = none) : Has entry option ""

theorem Has.optionText_eq {entry : Members} {option s : String} (has : Has entry option s) :
    optionText (.object entry) option = s := by
  cases has with
  | text h => simp only [optionText, Json.get?, h]
  | null h => simp only [optionText, Json.get?, h]
  | missing h => simp only [optionText, Json.get?, h]

def HasAll (entry : Members) (options : List (String × String)) : Prop :=
  ∀ option ∈ options, Has entry option.1 option.2

theorem HasAll.optionText_eq {entry : Members} {options : List (String × String)}
    (has : HasAll entry options) :
    ∀ option ∈ options, optionText (.object entry) option.1 = option.2 :=
  fun option h => (has option h).optionText_eq

/-! ## Where the options of a record stand -/

namespace Service

def laidOut (s : Service) : List (String × String) := [
  ("id", s.id), ("label", s.label), ("shortlabel", s.shortLabel), ("pty", s.pty),
  ("language", s.language)]

theorem fill_laidOut {s : Service} {entry : Members} (has : HasAll entry s.laidOut) :
    fill options (.object entry) (named s.name) = s := by
  have texts := has.optionText_eq
  simp only [laidOut, List.forall_mem_cons] at texts
  simp only [fill, options, List.foldl_cons, List.foldl_nil, texts, named]

end Service

namespace Subchannel

def laidOut (s : Subchannel) : List (String × String) := [
  ("type", s.kind), ("inputfile", s.inputFile), ("zmq-buffer", s.zmqBuffer),
  ("zmq-prebuffering", s.zmqPrebuffering), ("bitrate", s.bitrate), ("id", s.id),
  ("protection", s.protection), ("encryption", s.encryption), ("secret-key", s.secretKey),
  ("public-key", s.publicKey), ("encoder-key", s.encoderKey)]

theorem fill_laidOut {s : Subchannel} {entry : Members} (has : HasAll entry s.laidOut) :
    fill options (.object entry) (named s.name) = s := by
  have texts := has.optionText_eq
  simp only [laidOut, List.forall_mem_cons] at texts
  simp only [fill, options, List.foldl_cons, List.foldl_nil, texts, named]

end Subchannel

namespace Component

def laidOut (c : Component) : List (String × String) := [
  ("label", c.label), ("shortlabel", c.shortLabel), ("service", c.service),
  ("subchannel", c.subchannel), ("figtype", c.figType)]

theorem fill_laidOut {c : Component} {entry : Members} (has : HasAll entry c.laidOut) :
    fill options (.object entry) (named c.name) = c := by
  have texts := has.optionText_eq
  simp only [laidOut, List.forall_mem_cons] at texts
  simp only [fill, options, List.foldl_cons, List.foldl_nil, texts, named]

end Component

namespace General

def laidOut (g : General) : List (String × String) := [
  ("nbframes", g.nbFrames), ("statsserverport", g.statsServerPort),
  ("writescca", g.writeScca), ("tist", g.tist), ("dabmode", g.dabMode), ("syslog", g.syslog)]

def laidOutRemote (g : General) : List (String × String) := [("telnetport", g.telnetPort)]

theorem fill_laidOut {g : General} {general remote : Members} (has : HasAll general g.laidOut)
    (hasRemote : HasAll remote g.laidOutRemote) :
    fill remoteOptions (.object remote) (fill options (.object general) blank) = g := by
  have texts := has.optionText_eq
  have remoteTexts := hasRemote.optionText_eq
  simp only [laidOut, laidOutRemote, List.forall_mem_cons] at texts remoteTexts
  simp only [fill, options, remoteOptions, List.foldl_cons, List.foldl_nil, texts, remoteTexts,
    blank]

end General

/-! ## Sections -/

namespace Tree

variable {ρ : Type} {tree : Tree} {name : String} {members : Members}

/-- The tree has no section of that name: there is nothing, or no object. -/
def Lacks (tree : Tree) (name : String) : Prop :=
  ∀ members : Members, Members.get? name tree.members ≠ some (.object members)

theorem sectionMembers_of_get? (h : Members.get? name tree.members = some (.object members)) :
    tree.sectionMembers name = .ok members := by
  rw [sectionMembers, h]

theorem sectionMembers_of_lacks (lacks : tree.Lacks name) :
    tree.sectionMembers name = .error (.missingSection name) := by
  rw [sectionMembers]
  split
  · rename_i members found
    exact absurd found (lacks members)
  · rfl

theorem lacks_or_get? (tree : Tree) (name : String) :
    tree.Lacks name ∨ ∃ members : Members,
      Members.get? name tree.members = some (.object members) := by
  by_cases lacks : tree.Lacks name
  · exact .inl lacks
  · simp only [Lacks, not_forall, not_not] at lacks
    exact .inr lacks

/-- What is built of these sections fails just where one of them is lacking, and names the
first one that is. -/
def FailsLacking {α : Type} (build : Tree → Except Fault α) (sections : List String) : Prop :=
  ∀ (tree : Tree) (fault : Fault), build tree = .error fault ↔
    ∃ before name after, sections = before ++ name :: after ∧
      (∀ earlier ∈ before, ¬ tree.Lacks earlier) ∧ tree.Lacks name ∧
        fault = .missingSection name

/-- A record and the member of its section that it is laid out in. -/
def LaidOut (label : ρ → String) (laidOut : ρ → List (String × String)) (record : ρ)
    (member : String × Json) : Prop :=
  member.1 = label record ∧ ∃ entry : Members, member.2 = .object entry ∧
    HasAll entry (laidOut record)

structure IsViewOf (build : Tree → Except Fault (List ρ)) (name : String) (label : ρ → String)
    (laidOut : ρ → List (String × String)) : Prop where
  /-- Records that are laid out in the section are what is seen of it. -/
  inverts {tree : Tree} {members : Members} {records : List ρ}
    (held : Members.get? name tree.members = some (.object members))
    (each : List.Forall₂ (LaidOut label laidOut) records members) : build tree = .ok records
  /-- Members of any form are seen under their names, each one and in order. -/
  total {tree : Tree} {members : Members}
    (held : Members.get? name tree.members = some (.object members)) :
    ∃ records, build tree = .ok records ∧ records.map label = members.names
  fails : FailsLacking build [name]

theorem failsLacking_single {α : Type} {build : Tree → Except Fault α}
    (lacking : ∀ tree, tree.Lacks name → build tree = .error (.missingSection name))
    (held : ∀ tree members, Members.get? name tree.members = some (.object members) →
      ∃ x, build tree = .ok x) : FailsLacking build [name] := by
  intro tree fault
  constructor
  · intro failed
    rcases tree.lacks_or_get? name with lacks | ⟨members, found⟩
    · rw [lacking tree lacks] at failed
      exact ⟨[], name, [], rfl, List.forall_mem_nil _, lacks, (Except.error.inj failed).symm⟩
    · obtain ⟨x, built⟩ := held tree members found
      rw [built] at failed
      cases failed
  · rintro ⟨before, other, after, sections, -, lacks, rfl⟩
    have same : other ∈ [name] := by simp [sections]
    obtain rfl := List.mem_singleton.mp same
    exact lacking tree lacks

theorem view_of_get? (h : Members.get? name tree.members = some (.object members))
    (named : String → ρ) (options : List (Field ρ)) :
    tree.view name named options =
      .ok (members.map fun (key, entry) => fill options entry (named key)) := by
  rw [view, sectionMembers_of_get? h]
  rfl

theorem view_of_lacks (lacks : tree.Lacks name) (named : String → ρ)
    (options : List (Field ρ)) :
    tree.view name named options = .error (.missingSection name) := by
  rw [view, sectionMembers_of_lacks lacks]
  rfl

theorem isViewOf_view {label : ρ → String} {laidOut : ρ → List (String × String)}
    {named : String → ρ} {options : List (Field ρ)}
    (labels : ∀ entry key, label (fill options entry (named key)) = key)
    (fills : ∀ (record : ρ) (entry : Members), HasAll entry (laidOut record) →
      fill options (.object entry) (named (label record)) = record) (name : String) :
    IsViewOf (fun tree => tree.view name named options) name label laidOut where
  inverts {tree members records} held each := by
    have same : members.map (fun (key, entry) => fill options entry (named key)) = records := by
      clear held
      induction each with
      | nil => rfl
      | @cons record member records members first _ ih =>
          obtain ⟨key, _⟩ := member
          obtain ⟨rfl, entry, rfl, has⟩ := first
          rw [List.map_cons, ih]
          exact congrArg (· :: records) (fills record entry has)
    rw [view_of_get? held, same]
  total {tree members} held := by
    refine ⟨_, view_of_get? held named options, ?_⟩
    rw [List.map_map, Members.names]
    exact List.map_congr_left fun member _ => labels member.2 member.1
  fails := failsLacking_single (fun tree lacks => view_of_lacks lacks named options)
    fun tree members held => ⟨_, view_of_get? held named options⟩

/-! ## General options -/

def LaysOutGeneral (tree : Tree) (g : General) : Prop :=
  ∃ general remote : Members,
    Members.get? "general" tree.members = some (.object general) ∧
      Members.get? "remotecontrol" tree.members = some (.object remote) ∧
        HasAll general g.laidOut ∧ HasAll remote g.laidOutRemote

theorem general_of_laysOut {g : General} (lays : tree.LaysOutGeneral g) :
    tree.general = .ok g := by
  obtain ⟨general, remote, held, heldRemote, has, hasRemote⟩ := lays
  have filled := General.fill_laidOut has hasRemote
  rw [Tree.general, sectionMembers_of_get? held, sectionMembers_of_get? heldRemote]
  exact congrArg Except.ok filled

theorem failsLacking_general : FailsLacking general ["general", "remotecontrol"] := by
  intro tree fault
  constructor
  · intro failed
    rcases tree.lacks_or_get? "general" with lacks | ⟨general, held⟩
    · rw [Tree.general, sectionMembers_of_lacks lacks] at failed
      cases failed
      exact ⟨[], _, _, rfl, List.forall_mem_nil _, lacks, rfl⟩
    · rw [Tree.general, sectionMembers_of_get? held] at failed
      rcases tree.lacks_or_get? "remotecontrol" with lacks | ⟨remote, heldRemote⟩
      · rw [sectionMembers_of_lacks lacks] at failed
        cases failed
        refine ⟨["general"], _, [], rfl, ?_, lacks, rfl⟩
        exact List.forall_mem_singleton.mpr fun lacksGeneral => lacksGeneral general held
      · rw [sectionMembers_of_get? heldRemote] at failed
        cases failed
  · rintro ⟨before, name, after, sections, present, lacks, rfl⟩
    match before, sections with
    | [], sections =>
        obtain ⟨rfl, -⟩ := List.cons.inj sections
        rw [Tree.general, sectionMembers_of_lacks lacks]
        rfl
    | [_], sections =>
        simp only [List.cons_append, List.nil_append, List.cons.injEq] at sections
        obtain ⟨rfl, rfl, -⟩ := sections
        have here := List.forall_mem_singleton.mp present
        obtain ⟨general, held⟩ := (tree.lacks_or_get? "general").resolve_left here
        rw [Tree.general, sectionMembers_of_get? held, sectionMembers_of_lacks lacks]
        rfl
    | _ :: _ :: _, sections => simp at sections

/-! ## Views -/

/-- Whatever is laid out in a configuration is seen of it, and only sections that are not
there keep it from being seen. -/
theorem views_invert_layout :
    IsViewOf services "services" Service.name Service.laidOut ∧
      IsViewOf subchannels "subchannels" Subchannel.name Subchannel.laidOut ∧
        IsViewOf components "components" Component.name Component.laidOut ∧
          (∀ (tree : Tree) (g : General), tree.LaysOutGeneral g → tree.general = .ok g) ∧
            FailsLacking general ["general", "remotecontrol"] :=
  ⟨isViewOf_view (fun _ _ => rfl) (fun _ _ => Service.fill_laidOut) _,
    isViewOf_view (fun _ _ => rfl) (fun _ _ => Subchannel.fill_laidOut) _,
    isViewOf_view (fun _ _ => rfl) (fun _ _ => Component.fill_laidOut) _,
    fun _ _ => general_of_laysOut, failsLacking_general⟩

def twoServices : Tree := ⟨[
  ("general", .object []),
  ("services", .object [
    ("zeta", .object [("pty", .null), ("label", .text "Test"), ("stereo", .bool true),
      ("id", .text "0x4daa")]),
    ("alpha", .object [])])]⟩

theorem services_of_twoServices :
    twoServices.services =
      .ok [⟨"zeta", "0x4daa", "Test", "", "", ""⟩, ⟨"alpha", "", "", "", "", ""⟩] := by
  have zeta : HasAll [("pty", .null), ("label", .text "Test"), ("stereo", .bool true),
      ("id", .text "0x4daa")] (Service.laidOut ⟨"zeta", "0x4daa", "Test", "", "", ""⟩) := by
    simp only [HasAll, Service.laidOut, List.forall_mem_cons]
    exact ⟨.text rfl, .text rfl, .missing rfl, .null rfl, .missing rfl, List.forall_mem_nil _⟩
  have alpha : HasAll [] (Service.laidOut ⟨"alpha", "", "", "", "", ""⟩) := by
    simp only [HasAll, Service.laidOut, List.forall_mem_cons]
    exact ⟨.missing rfl, .missing rfl, .missing rfl, .missing rfl, .missing rfl,
      List.forall_mem_nil _⟩
  exact views_invert_layout.1.inverts rfl
    (.cons ⟨rfl, _, rfl, zeta⟩ (.cons ⟨rfl, _, rfl, alpha⟩ .nil))

end Tree

end MuxConsole.Config
