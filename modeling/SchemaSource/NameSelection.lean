import SchemaSource.Glob
import SchemaSource.Module
/-!
Which names are exported. What a pattern means is left to the one who compiles it; only the sets of
names that the patterns stand for matter, not their order or number.
-/
namespace SchemaSource

structure PatternFault where
  pattern : String
  fault : Glob.Fault
  deriving DecidableEq, Repr

def PatternFault.message (error : PatternFault) : String :=
  "Invalid pattern '" ++ error.pattern ++ "': " ++ error.fault.message

abbrev PatternCompiler := String → Except Glob.Fault (String → Bool)

structure SelectionSettings where
  /-- Internal names and names of types are left out. -/
  defaultRules : Bool := true
  /-- Patterns of the only names to export. Without any, all names are. -/
  included : List String := []
  /-- Patterns of names to leave out. -/
  excluded : List String := []
  deriving DecidableEq, Repr

structure NameSelection where
  defaultRules : Bool
  included : List (String → Bool)
  excluded : List (String → Bool)

namespace NameSelection

def accepts (filter : NameSelection) (name : String) : Bool :=
  (!filter.defaultRules || isPublicName name)
    && !filter.excluded.any (· name)
    && (filter.included.isEmpty || filter.included.any (· name))

/-- The meanings of some patterns. The first that has none is reported. -/
def compileAll (compile : PatternCompiler) :
    List String → Except PatternFault (List (String → Bool))
  | [] => .ok []
  | pattern :: rest =>
    match compile pattern with
    | .error fault => .error ⟨pattern, fault⟩
    | .ok names => do return names :: (← compileAll compile rest)

def ofSettings (compile : PatternCompiler) (settings : SelectionSettings) :
    Except PatternFault NameSelection := do
  let included ← compileAll compile settings.included
  let excluded ← compileAll compile settings.excluded
  return ⟨settings.defaultRules, included, excluded⟩

end NameSelection
end SchemaSource
