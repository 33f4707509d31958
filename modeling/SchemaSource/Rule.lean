import SchemaSource.Dialect
import SchemaSource.Doc
import SchemaSource.Numeral
import SchemaSource.RenderFault
/-!
Rules say how the schemas of a kind are written. A rule reads the definition and leaves its children
as holes in a template; it knows nothing of layout or of how children are rendered.
-/
namespace SchemaSource

inductive Piece (α : Type) where
  | text (content : String)
  | hole (child : α)
  /-- Properties in braces, each with a child for a value. -/
  | block (entries : List (String × α))

/-- A text with holes. -/
abbrev Template (α : Type) := List (Piece α)

namespace Template

def text {α : Type} (s : String) : Template α := [.text s]

def list {α : Type} : List α → Template α
  | [] => []
  | [child] => [.hole child]
  | child :: rest => .hole child :: .text ", " :: list rest

variable {α ε : Type}

/-- The documents of a block's children, one level deeper. -/
def fillEntries (render : α → Nat → Except ε Doc) :
    List (String × α) → Except ε (List (String × Doc))
  | [] => .ok []
  | (name, child) :: rest => do
    let doc ← render child 1
    let docs ← fillEntries render rest
    return (name, doc) :: docs

/-- The documents of a template's pieces. Children are rendered in the order in which they stand, at
the given number of levels further in, and the first failure ends the work. -/
def fillPieces (render : α → Nat → Except ε Doc) : Template α → Except ε (List Doc)
  | [] => .ok []
  | .text content :: rest => do
    let docs ← fillPieces render rest
    return .text content :: docs
  | .hole child :: rest => do
    let doc ← render child 0
    let docs ← fillPieces render rest
    return doc :: docs
  | .block entries :: rest => do
    let entries ← fillEntries render entries
    let docs ← fillPieces render rest
    return .block entries :: docs

def fill (render : α → Nat → Except ε Doc) (template : Template α) : Except ε Doc := do
  return .concat (← fillPieces render template)

end Template

/-- What a rule may consult beside the definition. -/
structure Reading where
  dialect : Dialect
  optimizations : Optimizations

/-- How the schemas of a kind are written. A schema without a definition counts as one without
anything in it. -/
abbrev Rule := Reading → {whole : Value} → Members whole →
  Except RenderFault (Template (Part whole))

end SchemaSource
