import SchemaSource.Rule
/-!
Handlers render the schemas of a tag. They see the layout and can have any part of the schema
rendered, at any level. A handler may also leave a schema to the general fallback.
-/
namespace SchemaSource

/-- What a handler may consult while it renders a schema. -/
structure Scope (node : Value) where
  dialect : Dialect
  options : Options
  /-- The level at which the text will stand. -/
  level : Nat
  /-- The document of a part at a level. Strict parts are smaller than the schema, so rendering
  comes to an end. This leaves out the handlers that have anything else rendered: the schema itself,
  a value that they make for it, or one that they kept from before. -/
  render : Part node → Nat → Except RenderFault Doc

abbrev Handler := (node : Value) → Scope node → Except RenderFault (Option Doc)

def Scope.definition {node : Value} (scope : Scope node) : Members node :=
  (scope.dialect.definition? node).getD (.empty node)

/-- A rule renders every schema of its kind. -/
def Rule.handler (rule : Rule) : Handler := fun _ scope => do
  let template ← rule ⟨scope.dialect, scope.options.optimizations⟩ scope.definition
  let doc ← template.fill fun part deeper => scope.render part (scope.level + deeper)
  return some doc

end SchemaSource
