import SchemaSource.NameSelection
/-!
The configuration of a run, and what a command line changes about it.
-/
namespace SchemaSource

/-- Where the module goes when nothing else is said. -/
def OutputSettings.defaultFile : String := "./generated/schemas.ts"

/-- Where the module goes and what stands around its constants. -/
structure OutputSettings where
  file : String := OutputSettings.defaultFile
  includeTypes : Bool := true
  /-- A text that takes the place of the generated header. -/
  header : Option String := none
  deriving DecidableEq, Repr

structure RenderSettings where
  version : Version := .v4
  indent : String := "  "
  format : Bool := true
  semanticMethods : Bool := true
  scientificNotation : Bool := true
  deriving DecidableEq, Repr

def RenderSettings.options (settings : RenderSettings) : Options where
  indent := settings.indent
  format := settings.format
  optimizations := ⟨settings.semanticMethods, settings.scientificNotation⟩

structure Config where
  output : OutputSettings := {}
  filter : SelectionSettings := {}
  render : RenderSettings := {}
  deriving DecidableEq, Repr

/-- What a command line asks for in place of the configuration, or beside it. -/
structure Overrides where
  output : Option String := none
  includeTypes : Option Bool := none
  version : Option Version := none
  format : Option Bool := none
  /-- Patterns added to those of the configuration. -/
  included : List String := []
  excluded : List String := []
  deriving DecidableEq, Repr

namespace Config

def defaultFile : String := "zod-codepen.toml"

/-- Single settings of the command line win; patterns add up. -/
def override (config : Config) (overrides : Overrides) : Config where
  output := { config.output with
    file := overrides.output.getD config.output.file
    includeTypes := overrides.includeTypes.getD config.output.includeTypes }
  filter := { config.filter with
    included := config.filter.included ++ overrides.included
    excluded := config.filter.excluded ++ overrides.excluded }
  render := { config.render with
    version := overrides.version.getD config.render.version
    format := overrides.format.getD config.render.format }

end Config
end SchemaSource
