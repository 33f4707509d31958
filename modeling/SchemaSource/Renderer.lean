import SchemaSource.Registry
import SchemaSource.Text.Described
/-!
Rendering schemas as source text. A schema is given to the handler of its tag, which has its parts
rendered in turn. Parts are smaller than the schema they belong to, so this ends on every value.
-/
namespace SchemaSource

/-- Reads schemas in one dialect and renders them by the handlers of a registry. -/
structure Renderer where
  dialect : Dialect
  registry : Registry

namespace Renderer

def ofDialect (dialect : Dialect) : Renderer := ⟨dialect, .builtin⟩

def ofVersion (version : Version) : Renderer := ofDialect version.dialect

def register (renderer : Renderer) (tag : Tag) (handler : Handler) : Renderer :=
  { renderer with registry := renderer.registry.insert tag handler }

def notASchema (value : Value) : String := "/* not a zod schema: " ++ value.kindName ++ " */"

def unknownType : String := "z.any() /* unknown type */"

def unhandled (name : String) : String := "z.any() /* unhandled type: " ++ name ++ " */"

def renderAt (renderer : Renderer) (options : Options) (level : Nat) (node : Value) :
    Except RenderFault Doc :=
  if renderer.dialect.recognizes node then
    match renderer.dialect.tag? node with
    | none => return .text unknownType
    | some name =>
      match renderer.registry.get? (.ofName name) with
      | none => return .text (unhandled name)
      | some handler => do
        let doc ← handler node
          { dialect := renderer.dialect
            options
            level
            render := fun part level => renderAt renderer options level part.1 }
        return doc.getD (.text (unhandled name))
  else return .text (notASchema node)
termination_by node.weight
decreasing_by exact part.2

def document (renderer : Renderer) (options : Options) (node : Value) : Except RenderFault Doc :=
  renderer.renderAt options options.indentLevel node

def render (renderer : Renderer) (options : Options) (node : Value) :
    Except RenderFault String := do
  return (← renderer.document options node).print options options.indentLevel

def describe (renderer : Renderer) : String :=
  Text.describeRecord "Serializer"
    [("version", renderer.dialect.version.describe), ("handlers", renderer.registry.describe)] true

end Renderer
end SchemaSource
