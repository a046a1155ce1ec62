import MuxConsole.Config.Answer
import MuxConsole.Proofs.Json.RoundTrip

/-!
# The shapes of a configuration answer

A member `config` decides what an answer is: a list of inputs, a tree, or nothing that
could be used.  An answer without one is a tree if a section shows it to be one.  All
else is malformed, and the complaint names what is wrong with it.
-/

namespace MuxConsole.Config.Answer

open Json

/-! ## Lists of inputs -/

theorem inputIdent_odd {item : Json} (odd : ∀ s, item ≠ .text s) :
    inputIdent item = .error (.malformed "config" (.inputIsNoText item)) := by
  cases item with
  | text s => exact absurd rfl (odd s)
  | _ => rfl

theorem mapM_inputIdent_texts (idents : List String) :
    (idents.map Json.text).mapM inputIdent = .ok idents := by
  induction idents with
  | nil => rfl
  | cons ident idents ih =>
      rw [List.map_cons, List.mapM_cons, inputIdent, ih]
      rfl

theorem mapM_inputIdent_odd {item : Json} (odd : ∀ s, item ≠ .text s) (idents : List String)
    (rest : List Json) :
    (idents.map Json.text ++ item :: rest).mapM inputIdent =
      .error (.malformed "config" (.inputIsNoText item)) := by
  induction idents with
  | nil =>
      rw [List.map_nil, List.nil_append, List.mapM_cons, inputIdent_odd odd]
      rfl
  | cons ident idents ih =>
      rw [List.map_cons, List.cons_append, List.mapM_cons, inputIdent, ih]
      rfl

theorem texts_or_odd (items : List Json) :
    (∃ idents : List String, items = idents.map Json.text) ∨
      ∃ (idents : List String) (item : Json) (rest : List Json),
        items = idents.map Json.text ++ item :: rest ∧ ∀ s, item ≠ .text s := by
  induction items with
  | nil => exact .inl ⟨[], rfl⟩
  | cons first items ih =>
      cases first with
      | text s =>
          obtain ⟨idents, rfl⟩ | ⟨idents, item, rest, rfl, odd⟩ := ih
          · exact .inl ⟨s :: idents, rfl⟩
          · exact .inr ⟨s :: idents, item, rest, rfl, odd⟩
      | _ => exact .inr ⟨[], _, items, rfl, nofun⟩

/-! ## Shapes -/

def HasSection (v : Json) : Prop := ∃ name ∈ treeSections, v.get? name ≠ none

inductive Shape (v : Json) : Except Defect Answer → Prop
  | inputs {idents : List String} (listed : v.get? "config" = some (ofStrings idents)) :
      Shape v (.ok (.inputs idents))
  | wrapped {tree : Tree} (held : v.get? "config" = some tree.toJson) :
      Shape v (.ok (.tree tree))
  | bare {tree : Tree} (absent : v.get? "config" = none) (whole : v = tree.toJson)
      (known : HasSection v) : Shape v (.ok (.tree tree))
  | oddInput {idents : List String} {item : Json} {rest : List Json}
      (listed : v.get? "config" = some (.list (idents.map Json.text ++ item :: rest)))
      (odd : ∀ s, item ≠ .text s) : Shape v (.error (.inputIsNoText item))
  | oddValue {value : Json} (held : v.get? "config" = some value)
      (noList : ∀ items, value ≠ .list items) (noObject : ∀ members, value ≠ .object members) :
      Shape v (.error (.configValue value))
  | neither (absent : v.get? "config" = none) (unknown : ¬ HasSection v) :
      Shape v (.error .neitherShape)

variable {v : Json} {result : Except Defect Answer}

theorem looksLikeTree_iff {members : Members} :
    looksLikeTree members = true ↔ HasSection (.object members) := by
  simp [looksLikeTree, HasSection, Option.isSome_iff_ne_none, Json.get?]

theorem HasSection.exists_tree (h : HasSection v) : ∃ tree : Tree, v = tree.toJson := by
  obtain ⟨name, _, held⟩ := h
  cases v with
  | object members => exact ⟨⟨members⟩, rfl⟩
  | _ => exact absurd rfl held

theorem exists_shape (v : Json) : ∃ result, Shape v result := by
  cases held : v.get? "config" with
  | none =>
      by_cases known : HasSection v
      · obtain ⟨tree, whole⟩ := known.exists_tree
        exact ⟨_, .bare held whole known⟩
      · exact ⟨_, .neither held known⟩
  | some value =>
      cases value with
      | list items =>
          obtain ⟨idents, rfl⟩ | ⟨idents, item, rest, rfl, odd⟩ := texts_or_odd items
          · exact ⟨_, .inputs held⟩
          · exact ⟨_, .oddInput held odd⟩
      | object members =>
          have whole : v.get? "config" = some (Tree.toJson ⟨members⟩) := held
          exact ⟨_, .wrapped whole⟩
      | _ => exact ⟨_, .oddValue held nofun nofun⟩

theorem ofJson_of_shape (h : Shape v result) :
    ofJson v = result.mapError (.malformed "config") := by
  unfold ofJson
  cases h with
  | inputs listed =>
      rw [listed]
      dsimp only [ofStrings]
      rw [mapM_inputIdent_texts]
      rfl
  | wrapped held =>
      rw [held]
      rfl
  | bare absent whole known =>
      subst whole
      rw [absent]
      exact if_pos (looksLikeTree_iff.mpr known)
  | oddInput listed odd =>
      rw [listed]
      dsimp only
      rw [mapM_inputIdent_odd odd]
      rfl
  | @oddValue value held noList noObject =>
      rw [held]
      cases value with
      | list items => exact absurd rfl (noList items)
      | object members => exact absurd rfl (noObject members)
      | _ => rfl
  | neither absent unknown =>
      rw [absent]
      cases v with
      | object members => exact if_neg fun known => unknown (looksLikeTree_iff.mp known)
      | _ => rfl

theorem mapError_malformed_inj {result result' : Except Defect Answer}
    (h : result.mapError (Fault.malformed "config") = result'.mapError (.malformed "config")) :
    result = result' := by
  cases result with
  | error defect =>
      cases result' with
      | error defect' =>
          cases h
          rfl
      | ok answer => cases h
  | ok answer =>
      cases result' with
      | error defect => cases h
      | ok answer' =>
          cases h
          rfl

theorem ofJson_eq_iff : ofJson v = result.mapError (.malformed "config") ↔ Shape v result := by
  refine ⟨fun same => ?_, ofJson_of_shape⟩
  obtain ⟨found, shape⟩ := exists_shape v
  rw [ofJson_of_shape shape] at same
  exact mapError_malformed_inj same ▸ shape

/-! ## Payloads -/

variable {payload : Bytes}

theorem decode_of_parse (parsed : parse payload = .ok v) : decode payload = ofJson v := by
  rw [decode, Reply.json, parsed]
  rfl

theorem decode_of_problem {problem : Problem} (parsed : parse payload = .error problem) :
    decode payload = .error (.malformed "config" (.json problem)) := by
  rw [decode, Reply.json, parsed]
  rfl

/-- What a configuration answer is decoded to is decided by its member `config`, and only
in the absence of that by its sections. -/
theorem decode_by_shape (payload : Bytes) :
    (∀ problem, parse payload = .error problem →
      decode payload = .error (.malformed "config" (.json problem))) ∧
    ∀ v, parse payload = .ok v →
      (∀ idents, decode payload = .ok (.inputs idents) ↔
        v.get? "config" = some (ofStrings idents)) ∧
      (∀ tree, decode payload = .ok (.tree tree) ↔
        v.get? "config" = some tree.toJson ∨
          v.get? "config" = none ∧ v = tree.toJson ∧ HasSection v) ∧
      ∀ fault, decode payload = .error fault ↔
        ∃ defect, fault = .malformed "config" defect ∧ Shape v (.error defect) := by
  refine ⟨fun problem => decode_of_problem, fun v parsed => ?_⟩
  rw [decode_of_parse parsed]
  have decodes (answer : Answer) : ofJson v = .ok answer ↔ Shape v (.ok answer) :=
    @ofJson_eq_iff v (.ok answer)
  have refuses (defect : Defect) : ofJson v = .error (.malformed "config" defect) ↔
      Shape v (.error defect) := @ofJson_eq_iff v (.error defect)
  refine ⟨fun idents => ?_, fun tree => ?_, fun fault => ⟨fun refused => ?_, ?_⟩⟩
  · rw [decodes]
    refine ⟨fun shape => ?_, .inputs⟩
    cases shape with
    | inputs listed => exact listed
  · rw [decodes]
    constructor
    · intro shape
      cases shape with
      | wrapped held => exact .inl held
      | bare absent whole known => exact .inr ⟨absent, whole, known⟩
    · rintro (held | ⟨absent, whole, known⟩)
      · exact .wrapped held
      · exact .bare absent whole known
  · obtain ⟨result, shape⟩ := exists_shape v
    rw [ofJson_of_shape shape] at refused
    cases result with
    | ok answer => cases refused
    | error defect =>
        cases refused
        exact ⟨defect, rfl, shape⟩
  · rintro ⟨defect, rfl, shape⟩
    exact (refuses defect).mpr shape

def numberBesideSection : Json :=
  .object [("general", .object []), ("config", .number (.whole 42 (by decide)))]

theorem section_beside_odd_config :
    parse (rendered numberBesideSection) = .ok numberBesideSection ∧
      HasSection numberBesideSection ∧
      (∀ idents, numberBesideSection.get? "config" ≠ some (ofStrings idents)) ∧
      (∀ tree : Tree, numberBesideSection.get? "config" ≠ some tree.toJson) ∧
      ∃ value, decode (rendered numberBesideSection) =
        .error (.malformed "config" (.configValue value)) := by
  have nested : Nested greatestDepth numberBesideSection := by
    refine .object (by decide) (List.forall_mem_cons.mpr ⟨?_, ?_⟩)
    · exact .object List.nodup_nil (List.forall_mem_nil _)
    · exact List.forall_mem_singleton.mpr (.number _)
  have integral : Integral numberBesideSection := by
    refine .object (List.forall_mem_cons.mpr ⟨?_, ?_⟩)
    · exact .object (List.forall_mem_nil _)
    · exact List.forall_mem_singleton.mpr (.number (by decide))
  have parsed := parse_of_isTextOf (isTextOf_rendered nested integral)
  let number : Json := .number (.whole 42 (by decide))
  have odd : Shape numberBesideSection (.error (.configValue number)) := .oddValue rfl nofun nofun
  refine ⟨parsed, ⟨"general", by decide, nofun⟩, nofun, nofun, number, ?_⟩
  rw [decode_of_parse parsed, ofJson_of_shape odd]
  rfl

end MuxConsole.Config.Answer
