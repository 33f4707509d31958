import SchemaSource.Members
import SchemaSource.Version
import SchemaSource.Check
/-!
Where each version keeps the internals of a schema: what tells a schema from other values, the tag
that names its kind, and the definition that holds its parts.
-/
namespace SchemaSource

structure Dialect where
  version : Version
  /-- The value is a schema. -/
  recognizes : Value → Bool
  /-- The name of a schema's kind. -/
  tag? : Value → Option String
  /-- The named values that define a schema. -/
  definition? : (value : Value) → Option (Members value)

namespace Dialect

/-- The object that a chain of properties leads to. -/
def path? (value : Value) : List String → Option (Members value)
  | [] => value.members?
  | key :: rest => do
    let part ← (← value.members?).get? key
    let inner ← path? part.1 rest
    return inner.widen

def classDefinition? (value : Value) : Option (Members value) :=
  (path? value ["_def"]).filter fun definition => (definition.fields.string? "typeName").isSome

/-- The tag of a class: its name in small letters, without the mark of the library. -/
def classTag (typeName : String) : String :=
  match typeName.toList with
  | 'Z' :: 'o' :: 'd' :: name => Text.lowercase (.ofList name)
  | _ => Text.lowercase typeName

def classTag? (value : Value) : Option String := do
  return classTag (← (← classDefinition? value).fields.string? "typeName")

/-- Schemas hold a definition that names their class. -/
def v3 : Dialect where
  version := .v3
  recognizes value := (classDefinition? value).isSome
  tag? := classTag?
  definition? := classDefinition?

/-- A definition in the inner object that names its kind. -/
def innerDefinition? (value : Value) : Option (Members value) :=
  (path? value ["_zod", "def"]).filter fun definition => (definition.fields.string? "type").isSome

/-- The kind that a value names itself. -/
def ownTag? (value : Value) : Option String := (value.get? "type").bind Value.string?

/-- Names its kind and can parse, as the small build does without an inner object. -/
def isSmall (value : Value) : Bool :=
  (ownTag? value).isSome && ((value.get? "parse").any Value.isFunction)

def isCurrent (value : Value) : Bool :=
  (innerDefinition? value).isSome || isSmall value || (classDefinition? value).isSome

/-- The kind that the object at the end of a path names. -/
def tagAt? (value : Value) (path : List String) : Option String :=
  (path? value path).bind (·.fields.string? "type")

/-- Schemas keep their definition in an inner object. The shortcuts of the classic build, the small
build and the layout of the version before are read as well. -/
def v4 : Dialect where
  version := .v4
  recognizes := isCurrent
  tag? value :=
    if isCurrent value then
      ownTag? value <|> tagAt? value ["_zod", "def"] <|> tagAt? value ["def"] <|> classTag? value
    else none
  definition? value :=
    if isCurrent value then
      path? value ["_zod", "def"] <|> path? value ["def"] <|> path? value ["_def"]
    else none

end Dialect

def Version.dialect : Version → Dialect
  | .v3 => .v3
  | .v4 => .v4

end SchemaSource
