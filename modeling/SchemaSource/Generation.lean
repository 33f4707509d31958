import SchemaSource.Config
import SchemaSource.Module.Header
/-!
Modules made as a configuration asks for.
-/
namespace SchemaSource.Config

def programName : String := "zod-codepen"

/-- A text of the configuration, or the generated header. -/
def headerAt (config : Config) (time : Instant) : String :=
  config.output.header.getD (Module.datedHeader programName time)

def moduleSettings (config : Config) (time : Instant) (filter : NameSelection) :
    ModuleSettings where
  header := some (config.headerAt time)
  includeTypes := config.output.includeTypes
  filter := some fun name _ => filter.accepts name

/-- The module of some named values, with patterns that mean what the compiler says. -/
def generateWith (compile : PatternCompiler) (config : Config) (time : Instant)
    (values : Fields) : Except PatternFault Module := do
  let filter ← NameSelection.ofSettings compile config.filter
  return (config.moduleSettings time filter).build (.ofVersion config.render.version)
    config.render.options values

def generate (config : Config) (time : Instant) (values : Fields) :
    Except PatternFault Module :=
  generateWith Glob.compile config time values

end SchemaSource.Config
