import SchemaSource.Rule
/-!
Schemas with functions of the user in them. The functions have no text, so a comment stands where
each was.
-/
namespace SchemaSource.Rule

/-- A call of a method with a function that is not shown. -/
def hiddenFunction (method comment : String) : String :=
  "." ++ method ++ "(/* " ++ comment ++ " function */)"

def effectOf {α : Type} (inner : α) : Option String → Template α
  | some "refinement" => [.hole inner, .text (hiddenFunction "refine" "refinement")]
  | some "transform" => [.hole inner, .text (hiddenFunction "transform" "transform")]
  | some "preprocess" =>
    [.text "z.preprocess(/* preprocess function */, ", .hole inner, .text ")"]
  | _ => [.hole inner]

def effects : Rule := fun _ _ definition =>
  match definition.truthy? "schema" with
  | some inner =>
    let effect := ((definition.fields.get? "effect").bind (·.get? "type")).bind Value.string?
    return effectOf inner effect
  | none => return .text "z.any()"

def pipeTo {α : Type} (input output : α) : Template α :=
  [.hole input, .text ".pipe(", .hole output, .text ")"]

/-- A pipe may lead into a bare function, which is a transformation of its input. -/
def pipe : Rule := fun reading _ definition =>
  match definition.truthy? "in" <|> definition.truthy? "innerType" with
  | none => return .text "z.any()"
  | some input =>
    match (definition.get? "out").filter (reading.dialect.recognizes ·.1) with
    | none => return [.hole input]
    | some output =>
      if reading.dialect.tag? output.1 = some "transform" then
        return [.hole input, .text (hiddenFunction "transform" "transform")]
      else return pipeTo input output

def pipeline : Rule := fun _ _ definition =>
  match definition.truthy? "in", definition.truthy? "out" with
  | none, _ => return .text "z.any()"
  | some input, some output => return pipeTo input output
  | some input, none => return [.hole input]

def transform : Rule := fun _ _ _ => return .text "/* transform */"

def tupleItems (dialect : Dialect) {whole : Value} (tuple : Part whole) : List (Part whole) :=
  match dialect.definition? tuple.1 with
  | some definition => (definition.widen.items "items")
  | none => []

def callWith {α : Type} (method : String) (arguments : List α) : Template α :=
  if arguments.isEmpty then []
  else .text ("." ++ method ++ "(") :: Template.list arguments ++ [.text ")"]

/-- Arguments are the items of a tuple. A result that may be anything is not written. -/
def function : Rule := fun reading _ definition =>
  let dialect := reading.dialect
  let tuple := (definition.get? "args").filter (dialect.recognizes ·.1)
  let arguments := (tuple.map (tupleItems dialect)).getD []
  let result := (definition.get? "returns").filter fun part =>
    dialect.recognizes part.1 && dialect.tag? part.1 != some "unknown"
  return .text "z.function()" :: callWith "args" arguments
    ++ callWith "returns" result.toList

end SchemaSource.Rule
