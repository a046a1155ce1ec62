import MuxConsole.Json.Schema

/-!
# Fields of a configuration

The records that a configuration is shown as hold texts only.  A field says
where its text stands: under one key in the record's own JSON, and under one
option in the configuration.
-/

namespace MuxConsole.Config

structure Field (ρ : Type) where
  key : String
  option : String
  get : ρ → String
  set : String → ρ → ρ

/-- A type of records: its name, the record of empty texts and the fields in
order. -/
structure Layout (ρ : Type) where
  type : String
  start : ρ
  fields : List (Field ρ)

variable {ρ : Type}

def Layout.schema (layout : Layout ρ) : Json.Schema ρ :=
  .record layout.type layout.start
    (layout.fields.map fun field => .needs field.key .string field.set)

def Layout.toJson (layout : Layout ρ) (record : ρ) : Json :=
  .object (layout.fields.map fun field => (field.key, .text (field.get record)))

/-- An option as text: nothing for one that is absent or null, and JSON for one
that is no text. -/
def optionText (entry : Json) (option : String) : String :=
  match entry.get? option with
  | none | some .null => ""
  | some (.text s) => s
  | some value => value.compact

def fill (fields : List (Field ρ)) (entry : Json) (record : ρ) : ρ :=
  fields.foldl (fun record field => field.set (optionText entry field.option) record) record

end MuxConsole.Config
