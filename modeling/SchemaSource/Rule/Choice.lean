import SchemaSource.Rule
/-!
Schemas that choose among given values or given schemas: literals, enumerations and unions.
-/
namespace SchemaSource.Rule

/-- The value of a literal. It stands alone, or first in a list. -/
def literalValue (definition : Fields) : Value :=
  match (definition.get? "value").filter (!·.isUndefined) with
  | some value => value
  | none =>
    match (definition.get? "values").bind Value.items? with
    | some (first :: _) => first
    | _ => .undefined

def literalText : Value → String
  | .string s => Text.quote s
  | .number x => x.text
  | .bool b => if b then "true" else "false"
  | .bigint n => bigintText n
  | .null => "null"
  | .undefined => "undefined"
  | value => value.jsonTextOrUndefined

def literal : Rule := fun _ _ definition =>
  return .text ("z.literal(" ++ literalText (literalValue definition.fields) ++ ")")

def enumMembers (definition : Fields) : List Value :=
  match (definition.get? "values").bind Value.items? with
  | some members => members
  | none => (((definition.get? "entries").bind Value.fields?).map Fields.values).getD []

def enumeration : Rule := fun _ _ definition =>
  let members := (enumMembers definition.fields).map fun value => value.jsonText?.getD "null"
  return .text ("z.enum([" ++ ", ".intercalate members ++ "])")

def enumTable (definition : Fields) : String :=
  (((definition.get? "values").filter Value.countsAsTrue).bind Value.jsonText?).getD "\x7b\x7d"

def nativeEnum : Rule := fun _ _ definition =>
  return .text ("z.nativeEnum(/* native enum */" ++ enumTable definition.fields ++ ")")

variable {α : Type}

def unionOf (options : List α) : Template α :=
  .text "z.union([" :: Template.list options ++ [.text "])"]

/-- A union whose members are told apart by one property. -/
def discriminatedOf (discriminator : Option Value) (options : List α) : Template α :=
  let name := (discriminator.bind Value.jsonText?).getD "undefined"
  .text ("z.discriminatedUnion(" ++ name ++ ", [") :: Template.list options ++ [.text "])"]

/-- A union may name a discriminator without having a kind of its own for that. -/
def union : Rule := fun _ _ definition =>
  let options := definition.items "options"
  match (definition.fields.get? "discriminator").filter Value.countsAsTrue with
  | some discriminator => return discriminatedOf (some discriminator) options
  | none => return unionOf options

def discriminatedUnion : Rule := fun _ _ definition =>
  return discriminatedOf (definition.fields.get? "discriminator") (definition.items "options")

def intersection : Rule := fun _ _ definition =>
  match definition.truthy? "left", definition.truthy? "right" with
  | some left, some right =>
    return [.text "z.intersection(", .hole left, .text ", ", .hole right, .text ")"]
  | _, _ => return .text "z.any()"

end SchemaSource.Rule
