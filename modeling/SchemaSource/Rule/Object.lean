import SchemaSource.Rule
/-!
Object schemas: their properties, and what becomes of properties that they do not name.
-/
namespace SchemaSource.Rule

/-- What an object schema does with properties it does not name. -/
inductive KeyPolicy where
  | strip
  | passthrough
  | strict
  deriving DecidableEq, Repr

namespace KeyPolicy

def text : KeyPolicy → String
  | .strip => ""
  | .passthrough => ".passthrough()"
  | .strict => ".strict()"

/-- A policy that the definition spells out. -/
def ofValue (policy : Value) : KeyPolicy :=
  match policy.string? with
  | some "passthrough" => .passthrough
  | some "strict" => .strict
  | _ => .strip

/-- The policy that the kind of the catch-all schema stands for. -/
def ofCatchall (tag : Option String) : KeyPolicy :=
  match tag with
  | some "unknown" => .passthrough
  | some "never" => .strict
  | _ => .strip

end KeyPolicy

/-- Everything an object schema says about unnamed properties: a policy, and whether the catch-all
schema is written as well. Where the policy is spelled out, a catch-all that admits nothing is only
the default; elsewhere the catch-all may itself be the policy. -/
def keyPolicy (policy : Option Value) (catchallTag : Option String) : KeyPolicy × Bool :=
  match policy with
  | some policy => (.ofValue policy, catchallTag.any (· != "never"))
  | none => (.ofCatchall catchallTag, catchallTag.any fun tag => tag != "unknown" && tag != "never")

/-- The properties of a shape. It may stand behind a function, which has to answer. -/
def shape? {whole : Value} (definition : Members whole) :
    Except RenderFault (Option (Members whole)) :=
  match definition.get? "shape" with
  | none => return none
  | some shape =>
    match shape.call with
    | .ok shape => return shape.members?
    | .error message => throw (.callback "shape" message)

def object : Rule := fun reading _ definition => do
  match ← shape? definition with
  | none => return .text "z.object(\x7b\x7d)"
  | some shape =>
    let catchall := (definition.get? "catchall").filter (reading.dialect.recognizes ·.1)
    let tag := catchall.bind (reading.dialect.tag? ·.1)
    let policy := (definition.fields.get? "unknownKeys").filter (!·.isUndefined)
    let (unknown, writeCatchall) := keyPolicy policy tag
    let properties : Template _ :=
      [.text "z.object(", .block shape.entries, .text (")" ++ unknown.text)]
    match catchall.filter fun _ => writeCatchall with
    | some catchall => return properties ++ [.text ".catchall(", .hole catchall, .text ")"]
    | none => return properties

end SchemaSource.Rule
