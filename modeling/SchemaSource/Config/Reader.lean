import SchemaSource.Config
import SchemaSource.Toml.Reader
/-!
Reading configurations. Settings that are not given keep their defaults, unknown ones are passed
over, and one of the wrong kind makes the whole configuration unreadable.
-/
namespace SchemaSource.Config

def string? : Toml.Value → Option String
  | .string value => some value
  | _ => none

def bool? : Toml.Value → Option Bool
  | .bool value => some value
  | _ => none

def strings? : Toml.Value → Option (List String)
  | .array items => items.mapM string?
  | _ => none

/-- A version by its name, which may also be the one key of a table with nothing in it. -/
def version? : Toml.Value → Option Version
  | .string name => Version.ofName? name
  | .table _ [(name, .table _ [])] => Version.ofName? name
  | .table _ [(name, .array [])] => Version.ofName? name
  | _ => none

/-- A setting of the right kind, or its default where it is not given. -/
def settingOr {α : Type} (default : α) (read : Toml.Value → Option α) : Option Toml.Value → Option α
  | none => some default
  | some value => read value

/-- What a table gives for some names. The values of other names are not used, but looked at. -/
def named? (names : List String) (entries : Toml.Entries) : Option (List (Option Toml.Value)) :=
  if entries.all fun (name, value) => names.contains name || value.inRange then
    some (names.map (Toml.get? entries))
  else none

/-- What a section gives for its settings: by name, or listed in their order. -/
def given? (names : List String) : Option Toml.Value → Option (List (Option Toml.Value))
  | none => some (names.map fun _ => none)
  | some (.table _ entries) => named? names entries
  | some (.array items) =>
    some ((items.map some ++ List.replicate names.length none).take names.length)
  | some _ => none

def output? (section? : Option Toml.Value) : Option OutputSettings := do
  match ← given? ["file", "include_types", "header"] section? with
  | [file, includeTypes, header] =>
    return {
      file := ← settingOr OutputSettings.defaultFile string? file
      includeTypes := ← settingOr true bool? includeTypes
      header := ← settingOr none (fun value => (string? value).map some) header }
  | _ => none

def filter? (section? : Option Toml.Value) : Option SelectionSettings := do
  match ← given? ["default_rules", "include", "exclude"] section? with
  | [defaultRules, included, excluded] =>
    return {
      defaultRules := ← settingOr true bool? defaultRules
      included := ← settingOr [] strings? included
      excluded := ← settingOr [] strings? excluded }
  | _ => none

def render? (section? : Option Toml.Value) : Option RenderSettings := do
  let names := ["zod_version", "indent", "format", "semantic_methods", "scientific_notation"]
  match ← given? names section? with
  | [version, indent, format, semanticMethods, scientificNotation] =>
    return {
      version := ← settingOr .v4 version? version
      indent := ← settingOr "  " string? indent
      format := ← settingOr true bool? format
      semanticMethods := ← settingOr true bool? semanticMethods
      scientificNotation := ← settingOr true bool? scientificNotation }
  | _ => none

def ofToml? (document : Toml.Entries) : Option Config := do
  match ← named? ["output", "filter", "serialize"] document with
  | [output, filter, render] =>
    return {
      output := ← output? output
      filter := ← filter? filter
      render := ← render? render }
  | _ => none

def ofText? (text : String) : Option Config := (Toml.ofText? text).bind ofToml?

end SchemaSource.Config
