import SchemaSource.Rule.Primitive
/-!
Schemas of values that hold others: arrays, sets, tuples, records and maps.
-/
namespace SchemaSource.Rule

/-- A count stored in a definition, by itself or with a message for whoever breaks it. -/
def count? (definition : Fields) (key : String) : Option Value :=
  match definition.held? key with
  | some value => if value.isObject then value.get? "value" else some value
  | none => none

def directCall? (definition : Fields) (key method : String) : Option String :=
  (count? definition key).map fun value => callText method (countText (some value))

def sizeCall? (exact : String) (check : Check) : Option String :=
  if check.kind = "min" ∨ check.kind = "max" ∨ check.kind = exact then
    some (callText check.kind (countText check.resolved))
  else none

/-- The calls that bound a size. A definition can state the same bound twice, as a count of its own
and as a check; it is written once, and counts come first. -/
def boundCalls (definition : Fields) (counts : List (String × String)) (exact : String) :
    List String :=
  (counts.filterMap (fun (key, method) => directCall? definition key method)
    ++ definition.checks.filterMap (sizeCall? exact)).eraseDups

def arrayCounts : List (String × String) :=
  [("minLength", "min"), ("maxLength", "max"), ("exactLength", "length")]

/-- An element under a name of its own, or an object in the place of the type. -/
def array : Rule := fun _ _ definition =>
  match definition.truthy? "element" <|> definition.nested? "type" with
  | some element =>
    let calls := boundCalls definition.fields arrayCounts "length"
    return [.text "z.array(", .hole element, .text (")" ++ String.join calls)]
  | none => return .text "z.array(z.any())"

def setCounts : List (String × String) := [("minSize", "min"), ("maxSize", "max")]

def set : Rule := fun _ _ definition =>
  match definition.truthy? "valueType" <|> definition.truthy? "element" with
  | some element =>
    let calls := boundCalls definition.fields setCounts "size"
    return [.text "z.set(", .hole element, .text (")" ++ String.join calls)]
  | none => return .text "z.set(z.any())"

def tuple : Rule := fun _ _ definition =>
  let items : Template _ :=
    .text "z.tuple([" :: Template.list (definition.items "items") ++ [.text "])"]
  match definition.truthy? "rest" with
  | some rest => return items ++ [.text ".rest(", .hole rest, .text ")"]
  | none => return items

/-- A child, or the text that stands for a missing one. -/
def childOr {α : Type} (child : Option α) (missing : String) : Piece α :=
  match child with
  | some child => .hole child
  | none => .text missing

/-- Keys are strings and values are anything unless the definition says otherwise. -/
def keyed (name : String) : Rule := fun _ _ definition =>
  return [.text ("z." ++ name ++ "("), childOr (definition.truthy? "keyType") "z.string()",
    .text ", ", childOr (definition.truthy? "valueType") "z.any()", .text ")"]

end SchemaSource.Rule
