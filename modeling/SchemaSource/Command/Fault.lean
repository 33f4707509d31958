import SchemaSource.NameSelection
import SchemaSource.Output
import SchemaSource.Snapshot
/-!
Why a command fails, in which words, and with which status.
-/
namespace SchemaSource

inductive ConfigFault where
  /-- The configuration that was asked for does not exist. -/
  | notFound (path : String)
  | unreadable (path : String) (fault : StorageFault)
  | invalidToml (path : String)
  deriving DecidableEq, Repr

def ConfigFault.message : ConfigFault → String
  | .notFound path => "Configuration file not found: " ++ path
  | .unreadable path fault => "Failed to read config " ++ path ++ ": " ++ fault.message
  | .invalidToml path => "Invalid TOML in " ++ path ++ ": the text is not a configuration"

inductive CommandFault where
  | snapshot (error : SnapshotFault)
  | config (error : ConfigFault)
  | filter (error : PatternFault)
  | write (error : OutputFault)
  | alreadyExists (path : String)
  /-- There is no module to check. -/
  | missingModule (path : String)
  /-- The module is not what would be generated now. -/
  | outOfDate (path : String)
  | storage (fault : StorageFault)
  deriving DecidableEq, Repr

namespace CommandFault

def message : CommandFault → String
  | .snapshot error => "Failed to load snapshot: " ++ error.message
  | .config error => "Failed to load configuration: " ++ error.message
  | .filter error => "Invalid filter: " ++ error.message
  | .write error => "Failed to write output: " ++ error.message
  | .alreadyExists path => "File already exists: " ++ path
  | .missingModule path => "Check failed: Generated module not found: " ++ path
  | .outOfDate path => "Check failed: " ++ path ++ " is out of date"
  | .storage fault => "IO error: " ++ fault.message

/-- The status with which the program ends. A check that fails has one of its own. -/
def exitCode : CommandFault → Nat
  | .missingModule _ | .outOfDate _ => 2
  | _ => 1

end CommandFault
end SchemaSource
