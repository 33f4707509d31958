import SchemaSource.Value
/-!
Constraints of a schema in one uniform shape. One generation of definitions keeps them as flat
entries with a kind; the next nests a definition that names a check and spells strictness and bounds
in that name.
-/
namespace SchemaSource

/-- A constraint. Kinds without a meaning here keep their name. -/
structure Check where
  kind : String
  value : Option Value := none
  minimum : Option Value := none
  maximum : Option Value := none
  /-- The bound itself is allowed. -/
  inclusive : Option Bool := none
  pattern : Option Value := none

/-- A property that holds something. -/
def Fields.held? (fields : Fields) (key : String) : Option Value :=
  (fields.get? key).filter fun value => !value.isNothing

def Fields.firstHeld? (fields : Fields) (keys : List String) : Option Value :=
  keys.findSome? fields.held?

def Fields.string? (fields : Fields) (key : String) : Option String :=
  (fields.get? key).bind Value.string?

def Fields.bool? (fields : Fields) (key : String) : Option Bool :=
  (fields.get? key).bind Value.bool?

namespace Fields

variable {fields : Fields} {key : String}

theorem held?_eq_some_iff {value : Value} :
    fields.held? key = some value ↔
      fields.get? key = some value ∧ value ≠ .undefined ∧ value ≠ .null := by
  simp [held?, Option.filter_eq_some_iff, ← Bool.not_eq_true, Value.isNothing_iff]

theorem held?_eq_none_iff :
    fields.held? key = none ↔
      ∀ value, fields.get? key = some value → value = .undefined ∨ value = .null := by
  simp [held?, Option.filter_eq_none_iff, Value.isNothing_iff]

theorem string?_eq_some_iff {text : String} :
    fields.string? key = some text ↔ fields.get? key = some (.string text) := by
  simp [string?, Option.bind_eq_some_iff, Value.string?_eq_some_iff]

theorem string?_eq_none_iff :
    fields.string? key = none ↔ ∀ text, fields.get? key ≠ some (.string text) := by
  simp [Option.eq_none_iff_forall_ne_some, string?_eq_some_iff]

theorem bool?_eq_some_iff {flag : Bool} :
    fields.bool? key = some flag ↔ fields.get? key = some (.bool flag) := by
  simp [bool?, Option.bind_eq_some_iff, Value.bool?_eq_some_iff]

end Fields

namespace Check

/-- What a constraint constrains with: its value, else its bound. -/
def resolved (check : Check) : Option Value :=
  check.value <|> check.minimum <|> check.maximum

/-- A flat entry. Its one value may be any bound. -/
def ofFlat (kind : String) (entry : Fields) : Check :=
  let value := entry.held? "value"
  { kind
    value
    minimum := value
    maximum := value
    inclusive := entry.bool? "inclusive"
    pattern := entry.held? "regex" }

/-- The shared name of a format that takes an operand. Other formats are kinds of their own. -/
def sharedFormat (format : String) : String :=
  match format with
  | "starts_with" => "startsWith"
  | "ends_with" => "endsWith"
  | other => other

def namedKind (name : String) : String :=
  match name with
  | "min_length" | "min_size" | "greater_than" | "greater_than_or_equal" => "min"
  | "max_length" | "max_size" | "less_than" | "less_than_or_equal" => "max"
  | "length_equals" => "length"
  | "size_equals" => "size"
  | "to_lower_case" => "toLowerCase"
  | "to_upper_case" => "toUpperCase"
  | "starts_with" => "startsWith"
  | "ends_with" => "endsWith"
  | "multiple_of" => "multipleOf"
  | "pattern" => "regex"
  | "integer" => "int"
  | other => other

/-- A check on the format of a string. Formats with an operand carry it under a name of its own. -/
def ofStringFormat (definition : Fields) : Check :=
  let format := ((definition.string? "format").filter (!·.isEmpty)).getD "format"
  { kind := sharedFormat format
    value := definition.firstHeld? ["prefix", "suffix", "includes"]
    pattern := definition.held? "pattern" }

/-- A check on the format of a number. All integer formats are one kind. -/
def ofNumberFormat (definition : Fields) : Check :=
  match (definition.string? "format").getD "" with
  | "int" | "safeint" | "integer" | "" => { kind := "int" }
  | other => { kind := other }

/-- Whether a bound is allowed is in the name of a comparison, and otherwise in a flag. -/
def namedInclusive (name : String) (definition : Fields) : Option Bool :=
  match name with
  | "greater_than" | "less_than" => some false
  | "greater_than_or_equal" | "less_than_or_equal" => some true
  | _ => definition.bool? "inclusive"

def ofNamed (name : String) (definition : Fields) : Check :=
  match name with
  | "string_format" => ofStringFormat definition
  | "number_format" => ofNumberFormat definition
  | _ =>
    { kind := namedKind name
      value := definition.firstHeld? ["value", "minimum", "maximum", "length", "size"]
      minimum := definition.held? "minimum"
      maximum := definition.held? "maximum"
      inclusive := namedInclusive name definition
      pattern := definition.held? "pattern" }

/-- The definition nested in an entry, with the name of its check. -/
def nested? (entry : Fields) : Option (String × Fields) := do
  let definition ← ((← entry.get? "_zod").get? "def") >>= Value.fields?
  let name ← definition.string? "check"
  return (name, definition)

/-- The constraint of an entry. An entry of neither shape has none. -/
def ofEntry? (entry : Value) : Option Check := do
  let fields ← entry.fields?
  match fields.string? "kind" with
  | some kind => return ofFlat kind fields
  | none =>
    let (name, definition) ← nested? fields
    return ofNamed name definition

end Check

def Fields.checks (definition : Fields) : List Check :=
  match (definition.get? "checks").bind Value.items? with
  | some entries => entries.filterMap Check.ofEntry?
  | none => []

end SchemaSource
