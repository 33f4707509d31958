import SchemaSource.Command.Fault
import SchemaSource.Config.Reader
import SchemaSource.Config.Template
import SchemaSource.Generation
import SchemaSource.Text.Blank
/-!
The commands of the program: generate a module from a snapshot, start a configuration, and check
that a module is what would be generated now.
-/
namespace SchemaSource

structure GenerateRequest where
  snapshot : String
  /-- The configuration that is asked for. -/
  config : Option String := none
  overrides : Overrides := {}
  dryRun : Bool := false

structure InitRequest where
  output : String := Config.defaultFile
  /-- A file that is there already is replaced. -/
  force : Bool := false

structure CheckRequest where
  snapshot : String
  config : Option String := none
  output : Option String := none
  version : Option Version := none

inductive Command where
  | generate (request : GenerateRequest)
  | init (request : InitRequest)
  | check (request : CheckRequest)

namespace Command

variable {m : Type → Type} [Monad m] [Host m]

def readConfig (path : String) : ExceptT ConfigFault m Config := do
  match ← Host.read path with
  | .error fault => throw (.unreadable path fault)
  | .ok text =>
    match Config.ofText? text with
    | some config => return config
    | none => throw (.invalidToml path)

/-- The configuration that is asked for, which must exist; else the one of the folder, if there is
one. -/
def findConfig (path? : Option String) : ExceptT ConfigFault m Config := do
  match path? with
  | some path =>
    if ← Host.present path then readConfig path else throw (.notFound path)
  | none =>
    if ← Host.present Config.defaultFile then readConfig Config.defaultFile else return {}

def openSnapshot (path : String) : ExceptT SnapshotFault m Fields := do
  unless ← Host.present path do throw (.notFound path)
  match ← Host.read path with
  | .error fault => throw (.unreadable path fault)
  | .ok text =>
    match Snapshot.ofText text with
    | .ok values => return values
    | .error error => throw error

def makeModule (config : Config) (time : Instant) (values : Fields) :
    ExceptT CommandFault m Module :=
  match config.generate time values with
  | .ok result => return result
  | .error error => throw (.filter error)

/-- The lines that tell what became of the values of a snapshot. -/
def report (result : Module) : List String :=
  ["  Exported " ++ toString result.exported.length ++ " schema(s)"]
    ++ (if result.failed.isEmpty then [] else
      ["  Warning: " ++ toString result.failed.length ++ " schema(s) fell back to z.any(): "
        ++ ", ".intercalate result.failed])
    ++ (if result.filtered.isEmpty then [] else
      ["  Filtered " ++ toString result.filtered.length ++ " name(s)"])
    ++ (if result.skipped.isEmpty then [] else
      ["  Skipped " ++ toString result.skipped.length ++ " non-schema value(s)"])

def ruler : String := String.ofList (List.replicate 60 '─')

/-- The lines that tell what became of the output. -/
def outcome : OutputResult → List String
  | .written path bytes => ["✓ Written " ++ toString bytes ++ " bytes to " ++ path]
  | .unchanged path => ["✓ " ++ path ++ " is up-to-date"]
  | .preview path content => ["[dry-run] Would write to " ++ path ++ ":", ruler, content, ruler]

/-- Two modules say the same under their headers, blanks at the ends apart. -/
def agree (existing generated : String) : Bool :=
  Text.trim (Module.withoutHeader existing) == Text.trim (Module.withoutHeader generated)

end Command

open Command

variable {m : Type → Type} [Monad m] [Host m]

def GenerateRequest.run (request : GenerateRequest) (time : Instant) :
    ExceptT CommandFault m Unit := do
  let config ← (findConfig request.config).adapt .config
  let config := config.override request.overrides
  Host.say ("Loading snapshot " ++ request.snapshot)
  let values ← (openSnapshot request.snapshot).adapt .snapshot
  Host.say ("  Found " ++ toString values.length ++ " entr(ies)")
  Host.say ("Serializing Zod " ++ config.render.version.name ++ " schemas...")
  let result ← makeModule config time values
  (report result).forM Host.say
  let written ← (Output.write request.dryRun config.output.file result.code).adapt .write
  (outcome written).forM Host.say

def InitRequest.run (request : InitRequest) : ExceptT CommandFault m Unit := do
  if !request.force && (← Host.present request.output) then
    Host.say "  Use --force to overwrite"
    throw (.alreadyExists request.output)
  match ← Host.write request.output Config.template with
  | .error fault => throw (.storage fault)
  | .ok _ => Host.say ("✓ Created configuration file: " ++ request.output)

def CheckRequest.run (request : CheckRequest) (time : Instant) :
    ExceptT CommandFault m Unit := do
  Host.say "Checking generated module..."
  let config ← (findConfig request.config).adapt .config
  let config := config.override { output := request.output, version := request.version }
  let path := config.output.file
  unless ← Host.present path do throw (.missingModule path)
  match ← Host.read path with
  | .error fault => throw (.storage fault)
  | .ok existing =>
    let values ← (openSnapshot request.snapshot).adapt .snapshot
    let result ← makeModule config time values
    if agree existing result.code then Host.say ("✓ " ++ path ++ " is up-to-date")
    else
      Host.say ("✗ " ++ path ++ " is out of date")
      Host.say "  Run 'zod-codepen generate' to update"
      throw (.outOfDate path)

def Command.run (time : Instant) : Command → ExceptT CommandFault m Unit
  | .generate request => request.run time
  | .init request => request.run
  | .check request => request.run time

end SchemaSource
