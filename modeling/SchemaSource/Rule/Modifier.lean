import SchemaSource.Rule
/-!
Schemas around one other schema: modifiers, fallback values, promises, brands and references.
-/
namespace SchemaSource.Rule

/-- A modifier without an argument. It also applies to a missing schema. -/
def modifier (method : String) : Rule := fun _ _ definition =>
  match definition.truthy? "innerType" with
  | some inner => return [.hole inner, .text ("." ++ method ++ "()")]
  | none => return .text ("z.any()." ++ method ++ "()")

def readonly : Rule := fun _ _ definition =>
  match definition.truthy? "innerType" with
  | some inner => return [.hole inner, .text ".readonly()"]
  | none => return .text "z.any()"

/-- The brand itself exists only for the type checker. -/
def branded : Rule := fun _ _ definition =>
  match definition.nested? "type" with
  | some inner => return [.hole inner, .text ".brand()"]
  | none => return .text "z.any()"

def promise : Rule := fun _ _ definition =>
  match definition.truthy? "innerType" <|> definition.nested? "type" with
  | some inner => return [.text "z.promise(", .hole inner, .text ")"]
  | none => return .text "z.promise(z.any())"

/-- A reference is not followed, so that it cannot lead back here. -/
def lazy : Rule := fun _ _ _ =>
  return .text "z.lazy(() => /* circular reference */)"

/-- A value that stands in for a missing or a bad one. -/
inductive Fallback where
  | default
  | recovery
  deriving DecidableEq, Repr

namespace Fallback

def method : Fallback → String
  | .default => "default"
  | .recovery => "catch"

def key : Fallback → String
  | .default => "defaultValue"
  | .recovery => "catchValue"

/-- The argument for what a function answers. Only what fits in one word is written. -/
def ofOutcome : Outcome → String
  | .returns value => value.primitiveText?.getD "/* function */"
  | .throws _ => "/* function */"

/-- The argument for a stored value or function. A value that recovers from a failed parse is asked
for with that failure. -/
def argument (fallback : Fallback) : Option Value → String
  | none | some .undefined => "undefined"
  | some (.function called recovering) =>
    ofOutcome (match fallback with
      | .default => called
      | .recovery => recovering)
  | some value => value.primitiveText?.getD "/* non-serializable value */"

end Fallback

def fallback (kind : Fallback) : Rule := fun _ _ definition =>
  match definition.truthy? "innerType" with
  | some inner =>
    let argument := kind.argument (definition.fields.get? kind.key)
    return [.hole inner, .text ("." ++ kind.method ++ "(" ++ argument ++ ")")]
  | none => return .text "z.any()"

end SchemaSource.Rule
