import SchemaSource.Value
/-!
The JSON form of runtime values. Undefined values and functions have none: an object loses such
properties, and an array keeps their place with `null`.
-/
namespace SchemaSource.Value

mutual

/-- The JSON value that stands for a runtime value. Big integers become their decimal strings and
dates their text; a regular expression is an object without properties of its own. -/
def toJson? : Value → Option Json
  | .undefined | .function .. => none
  | .null => some .null
  | .bool value => some (.bool value)
  | .number value => some (.ofDouble value)
  | .bigint value => some (.string (toString value))
  | .string value => some (.string value)
  | .date value => some (.string value.isoText)
  | .regexp _ => some (.object [])
  | .array items => some (.array (itemsToJson items))
  | .object fields => some (.object (fieldsToJson fields))

def itemsToJson : List Value → List Json
  | [] => []
  | item :: rest => (toJson? item).getD .null :: itemsToJson rest

def fieldsToJson : List (String × Value) → List (String × Json)
  | [] => []
  | (key, value) :: rest =>
    match toJson? value with
    | some json => (key, json) :: fieldsToJson rest
    | none => fieldsToJson rest

end

def jsonText? (value : Value) : Option String := (toJson? value).map Json.text

/-- The JSON text, or the name of the value that has none. -/
def jsonTextOrUndefined (value : Value) : String := (jsonText? value).getD "undefined"

/-- The text of a value that JSON writes in one word: a string, number, boolean or null. -/
def primitiveText? (value : Value) : Option String :=
  match value with
  | .string _ | .number _ | .bool _ | .null => jsonText? value
  | _ => none

end SchemaSource.Value
