import SchemaSource.Handler
import SchemaSource.Kind
import SchemaSource.Text.Described
/-!
Handlers by tag. Every tag has at most one; a registration replaces the handler of its tag and
touches no other. A schema gives its tag by name, and a name that a kind has stands for that kind.
-/
namespace SchemaSource

/-- What a handler is kept under. The name of an `other` may also be that of a kind: it is another
tag then, and no schema gives it. -/
inductive Tag where
  | builtin (kind : Kind)
  | other (name : String)
  deriving DecidableEq, Repr

namespace Tag

def name : Tag → String
  | .builtin kind => kind.tag
  | .other name => name

def ofName (name : String) : Tag :=
  match Kind.ofTag? name with
  | some kind => .builtin kind
  | none => .other name

end Tag

structure Registry where
  entries : List (Tag × Handler)

namespace Registry

def builtin : Registry := ⟨Kind.all.map fun kind => (.builtin kind, kind.rule.handler)⟩

def tags (registry : Registry) : List Tag := registry.entries.map (·.1)

def get? (registry : Registry) (tag : Tag) : Option Handler :=
  (registry.entries.find? (·.1 == tag)).map (·.2)

def contains (registry : Registry) (tag : Tag) : Bool := registry.tags.contains tag

def size (registry : Registry) : Nat := registry.entries.length

def isEmpty (registry : Registry) : Bool := registry.entries.isEmpty

def insert (registry : Registry) (tag : Tag) (handler : Handler) : Registry :=
  if registry.contains tag then
    ⟨registry.entries.map fun entry => if entry.1 = tag then (tag, handler) else entry⟩
  else ⟨registry.entries ++ [(tag, handler)]⟩

def sortedNames (registry : Registry) : List String :=
  (registry.tags.map Tag.name).mergeSort (· ≤ ·)

def describe (registry : Registry) : String :=
  Text.describeRecord "HandlerRegistry"
    [("tags", Text.describeList (registry.sortedNames.map Text.describeString))] true

end Registry
end SchemaSource
