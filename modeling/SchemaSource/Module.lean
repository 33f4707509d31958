import SchemaSource.Renderer
/-!
Modules of source text: an optional header, the import of the schema library, a constant for each
exported schema and, if wanted, a type for each. What becomes of a named value is settled by its own
name and value; the text follows from that.
-/
namespace SchemaSource

/-- What becomes of a named value. -/
inductive Disposition where
  /-- It is no schema. -/
  | skipped
  /-- It is not wanted. -/
  | filtered
  | exported (text : String)
  /-- Its constant accepts anything, because it cannot be rendered. -/
  | failed (error : RenderFault)

namespace Disposition

def isSkipped : Disposition → Bool
  | .skipped => true
  | _ => false

def isFiltered : Disposition → Bool
  | .filtered => true
  | _ => false

def isExported : Disposition → Bool
  | .exported _ => true
  | _ => false

def isFailed : Disposition → Bool
  | .failed _ => true
  | _ => false

end Disposition

/-- Names that start with a dollar sign are internal, and those that end in `Type` name types. -/
def isPublicName (name : String) : Bool :=
  name.toList.head? != some '$' && !"Type".toList.isSuffixOf name.toList

/-- A module before it is spelled out. -/
structure Module where
  header : Option String
  includeTypes : Bool
  /-- The named values in their order. -/
  entries : List (String × Disposition)

namespace Module

def importStatement : String := "import \x7b z \x7d from 'zod';"

def namesOf (m : Module) (fate : Disposition → Bool) : List String :=
  (m.entries.filter fun entry => fate entry.2).map (·.1)

def exported (m : Module) : List String := m.namesOf Disposition.isExported

def failed (m : Module) : List String := m.namesOf Disposition.isFailed

def filtered (m : Module) : List String := m.namesOf Disposition.isFiltered

def skipped (m : Module) : List String := m.namesOf Disposition.isSkipped

def constantCount (m : Module) : Nat := m.exported.length + m.failed.length

/-- A header stands above the import, with an empty line between them. -/
def headerLines : Option String → List String
  | some header => [header, ""]
  | none => []

/-- The constant of an entry, with an empty line after it. -/
def constantLines (name : String) : Disposition → List String
  | .exported text => ["export const " ++ name ++ " = " ++ text ++ ";", ""]
  | .failed _ => ["export const " ++ name ++ " = z.any(); // Serialization failed", ""]
  | .skipped | .filtered => []

def typeLine (name : String) : String :=
  "export type " ++ name ++ " = z.infer<typeof " ++ name ++ ">;"

/-- Types for what was exported. Where nothing was, there is no section of types. -/
def typeLines (includeTypes : Bool) (exported : List String) : List String :=
  if includeTypes && !exported.isEmpty then "// Type exports" :: exported.map typeLine else []

def lines (m : Module) : List String :=
  headerLines m.header ++ [importStatement, ""]
    ++ m.entries.flatMap (fun entry => constantLines entry.1 entry.2)
    ++ typeLines m.includeTypes m.exported

def code (m : Module) : String := "\n".intercalate m.lines

end Module

structure ModuleSettings where
  header : Option String := none
  includeTypes : Bool := true
  /-- The named schemas that are wanted; all of them, where nothing is said. -/
  filter : Option (String → Value → Bool) := none

namespace ModuleSettings

def bare : ModuleSettings := { includeTypes := false }

def wants (settings : ModuleSettings) (name : String) (value : Value) : Bool :=
  match settings.filter with
  | some filter => filter name value
  | none => true

/-- What becomes of a named value. Values that are no schemas are not put to the filter. -/
def dispose (settings : ModuleSettings) (renderer : Renderer) (options : Options)
    (name : String) (value : Value) : Disposition :=
  if !renderer.dialect.recognizes value then .skipped
  else if !settings.wants name value then .filtered
  else match renderer.render options value with
    | .ok text => .exported text
    | .error error => .failed error

/-- The module of some named values. A schema that cannot be rendered stops no other. -/
def build (settings : ModuleSettings) (renderer : Renderer) (options : Options)
    (values : Fields) : Module :=
  { header := settings.header
    includeTypes := settings.includeTypes
    entries := values.map fun (name, value) =>
      (name, settings.dispose renderer options name value) }

def describe (settings : ModuleSettings) : String :=
  Text.describeRecord "ModuleBuilder"
    [("header", Text.describeOption Text.describeString settings.header),
     ("include_types", Text.describeBool settings.includeTypes),
     ("filter", Text.describeBool settings.filter.isSome)] true

end ModuleSettings
end SchemaSource
