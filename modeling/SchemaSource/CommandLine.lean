import SchemaSource.Command
/-!
Command lines. A parameter is given by its long name or its letter, with its value attached or in
the next word; what stands between parameters, and all that follows a double hyphen, are operands.

Assumed of the library that reads command lines: letters may share one hyphen, of which the last may
take a value; a value may follow an equals sign and is never a word with a hyphen in front, other
than the hyphen alone; a parameter that does not repeat is given once at most; and no path is empty.
Requests for help and for the version number are left out.
-/
namespace SchemaSource.CommandLine

structure Parameter where
  long : String
  short : Option Char := none
  takesValue : Bool := true
  /-- It may be given more than once. -/
  repeats : Bool := false

/-- What was given: operands, and parameters by their long names. -/
structure Given where
  operands : List String := []
  values : List (String × String) := []

namespace Given

def addOperand (operand : String) (given : Given) : Given :=
  { given with operands := operand :: given.operands }

def addValues (values : List (String × String)) (given : Given) : Given :=
  { given with values := values ++ given.values }

/-- The values of a parameter in the order in which they were given. -/
def all (given : Given) (long : String) : List String :=
  given.values.filterMap fun (name, value) => if name = long then some value else none

def has (given : Given) (long : String) : Bool := !(given.all long).isEmpty

def first? (given : Given) (long : String) : Option String := (given.all long).head?

end Given

/-- A word that is no value for the parameter before it. A single hyphen is one. -/
def isParameter (word : String) : Bool :=
  match word.toList with
  | '-' :: _ :: _ => true
  | _ => false

/-- The text before an equals sign, and the text after it if there is one. -/
def splitValue : List Char → List Char × Option (List Char)
  | [] => ([], none)
  | '=' :: rest => ([], some rest)
  | c :: rest =>
    let (name, value) := splitValue rest
    (c :: name, value)

/-- What a word of letters gives, and the parameter that still waits for its value. -/
def letters (parameters : List Parameter) :
    List Char → Option (List (String × String) × Option String)
  | [] => some ([], none)
  | c :: rest => do
    let parameter ← parameters.find? (·.short == some c)
    if parameter.takesValue then
      match rest with
      | [] => return ([], some parameter.long)
      | '=' :: value => return ([(parameter.long, String.ofList value)], none)
      | value => return ([(parameter.long, String.ofList value)], none)
    else
      let (values, waiting) ← letters parameters rest
      return ((parameter.long, "") :: values, waiting)

/-- What a word that starts with a hyphen gives, and the parameter that still waits for its
value. -/
def word (parameters : List Parameter) (text : String) :
    Option (List (String × String) × Option String) :=
  match text.toList with
  | '-' :: '-' :: rest => do
    let (name, value) := splitValue rest
    let parameter ← parameters.find? (·.long == String.ofList name)
    match parameter.takesValue, value with
    | true, some value => return ([(parameter.long, String.ofList value)], none)
    | true, none => return ([], some parameter.long)
    | false, some _ => none
    | false, none => return ([(parameter.long, "")], none)
  | _ :: rest => letters parameters rest
  | [] => none

def read (parameters : List Parameter) : List String → Option Given
  | [] => some {}
  | "--" :: rest => some { operands := rest }
  | text :: rest =>
    if isParameter text then do
      let (values, waiting) ← word parameters text
      match waiting, rest with
      | none, rest => return (← read parameters rest).addValues values
      | some _, [] => none
      | some long, value :: rest =>
        if isParameter value then none
        else return (← read parameters rest).addValues (values ++ [(long, value)])
    else return (← read parameters rest).addOperand text

/-- Parameters that may be given once are. -/
def isUnambiguous (parameters : List Parameter) (given : Given) : Bool :=
  parameters.all fun parameter =>
    parameter.repeats || (given.all parameter.long).length ≤ 1

def read? (parameters : List Parameter) (words : List String) : Option Given :=
  (read parameters words).filter (isUnambiguous parameters)

/-- A parameter that every command takes. What would be told is not part of the output. -/
def verbose : Parameter := { long := "verbose", short := some 'v', takesValue := false }

/-- A path, if one is given. It cannot be empty. -/
def path? (given : Given) (long : String) : Option (Option String) :=
  match given.first? long with
  | none => some none
  | some path => if path.isEmpty then none else some (some path)

def version? (given : Given) : Option (Option Version) :=
  match given.first? "zod-version" with
  | none => some none
  | some text => (Version.ofText? text).map some

/-- The one operand of a command that needs it. -/
def operand? (given : Given) : Option String :=
  match given.operands with
  | [path] => if path.isEmpty then none else some path
  | _ => none

/-- A setting that a parameter turns off. -/
def off (given : Given) (long : String) : Option Bool :=
  if given.has long then some false else none

def generate? (words : List String) : Option GenerateRequest := do
  let given ← read?
    [verbose,
     { long := "output", short := some 'o' },
     { long := "zod-version", short := some 'z' },
     { long := "dry-run", takesValue := false },
     { long := "config", short := some 'c' },
     { long := "include", repeats := true },
     { long := "exclude", repeats := true },
     { long := "no-types", takesValue := false },
     { long := "compact", takesValue := false }] words
  return {
    snapshot := ← operand? given
    config := ← path? given "config"
    overrides := {
      output := ← path? given "output"
      includeTypes := off given "no-types"
      version := ← version? given
      format := off given "compact"
      included := given.all "include"
      excluded := given.all "exclude" }
    dryRun := given.has "dry-run" }

def init? (words : List String) : Option InitRequest := do
  let given ← read?
    [verbose,
     { long := "output", short := some 'o' },
     { long := "force", takesValue := false }] words
  let output ← path? given "output"
  if given.operands.isEmpty then
    return { output := output.getD Config.defaultFile, force := given.has "force" }
  else none

def check? (words : List String) : Option CheckRequest := do
  let given ← read?
    [verbose,
     { long := "path", short := some 'p' },
     { long := "zod-version", short := some 'z' },
     { long := "config", short := some 'c' }] words
  return {
    snapshot := ← operand? given
    config := ← path? given "config"
    output := ← path? given "path"
    version := ← version? given }

def named? : List String → Option Command
  | "generate" :: rest => (generate? rest).map .generate
  | "init" :: rest => (init? rest).map .init
  | "check" :: rest => (check? rest).map .check
  | _ => none

def command? : List String → Option Command
  | "-v" :: rest | "--verbose" :: rest => named? rest
  | words => named? words

end SchemaSource.CommandLine
