import SchemaSource.Proofs.SchemaCalls
/-!
Chains of calls read as schemas. The first call of a chain starts a schema, and each call after it
either wraps the schema so far or adds to it. Reading undoes what turns a schema into its chain.
-/
namespace SchemaSource

open Rule

/-! ## Words and names -/

/-- The integer that a word stands for. -/
def Word.integer? : Word → Option Int
  | .digits n => some n
  | .named name _ => (Numeral.ofNumber.find? (·.text "" == name)).map Numeral.value
  | .quoted _ => none

def Word.primitive? : Word → Option Primitive
  | .quoted content => some (.string content)
  | .digits n => some (.number (.ofInt n))
  | .named name _ =>
    match name with
    | "null" => some .null
    | "true" => some (.bool true)
    | "false" => some (.bool false)
    | _ => none

def Bare.ofMethod? : String → Option Bare
  | "undefined" => some .undefined
  | "null" => some .null
  | "void" => some .void
  | "any" => some .any
  | "unknown" => some .unknown
  | "never" => some .never
  | "nan" => some .nan
  | "symbol" => some .symbol
  | _ => none

def Modifier.ofMethod? : String → Option Modifier
  | "optional" => some .optional
  | "nullable" => some .nullable
  | "readonly" => some .readonly
  | _ => none

def Affix.ofMethod? : String → Option Affix
  | "startsWith" => some .startsWith
  | "endsWith" => some .endsWith
  | "includes" => some .includes
  | _ => none

/-- An extent, given the method for an exact size. -/
def Extent.ofMethod? (exact : MethodName) (name : String) : Option Extent :=
  if name = "min" then some .least
  else if name = "max" then some .greatest
  else if name = exact.text then some .exact
  else none

/-! ## Arguments -/

/-- What an argument of a call says. -/
inductive Argument where
  | word (word : Word)
  | schema (s : Schema)
  | list (items : List Argument)
  | block (shape : List (String × Schema))

namespace Argument

def quote? : Argument → Option String
  | .word (.quoted content) => some content
  | _ => none

def schema? : Argument → Option Schema
  | .schema s => some s
  | _ => none

end Argument

/-! ## Constraints -/

def SizeBound.ofCall? (exact : MethodName) (name : String) :
    List Argument → Option SizeBound
  | [.word (.digits n)] => (Extent.ofMethod? exact name).map (⟨·, .ofInt n⟩)
  | _ => none

def StringCheck.ofCall? (name : String) : List Argument → Option StringCheck
  | [] => if known : name ∈ bareStringChecks then some (.format name known) else none
  | [.word (.quoted operand)] => (Affix.ofMethod? name).map (.affix · operand)
  | arguments => (SizeBound.ofCall? lengthName name arguments).map .size

/-- A constraint of a number. A word for a bound is read as the bound. -/
def NumberCheck.ofCall? (name : String) : List Argument → Option NumberCheck
  | [] =>
    match name with
    | "int" => some (.method "int" (by decide))
    | "nonnegative" => some (.least true (.ofInt 0))
    | "nonpositive" => some (.greatest true (.ofInt 0))
    | "safe" => some (.greatest true (.ofInt Numeral.greatestSafe))
    | _ => none
  | [.word word] =>
    match name, word.integer? with
    | "min", some n => some (.least true (.ofInt n))
    | "max", some n => some (.greatest true (.ofInt n))
    | "multipleOf", some n => some (.multipleOf (.ofInt n))
    | _, _ => none
  | _ => none

/-! ## Calls -/

namespace Schema

/-- The schema that a first call starts. -/
def start? (name : String) : List Argument → Option Schema
  | [] =>
    match name with
    | "boolean" => some (.boolean false)
    | "coerce.boolean" => some (.boolean true)
    | "string" => some (.string false [])
    | "coerce.string" => some (.string true [])
    | "number" => some (.number false [])
    | "coerce.number" => some (.number true [])
    | name => (Bare.ofMethod? name).map .bare
  | [.word word] =>
    match name with
    | "literal" => word.primitive?.map (.literal ·.value)
    | _ => none
  | [.list items] =>
    match name with
    | "enum" => (items.mapM Argument.quote?).map .enumeration
    | "tuple" => (items.mapM Argument.schema?).map .tuple
    | "union" => (items.mapM Argument.schema?).map .union
    | _ => none
  | [.word (.quoted discriminator), .list items] =>
    match name with
    | "discriminatedUnion" =>
      (items.mapM Argument.schema?).map (.discriminatedUnion discriminator)
    | _ => none
  | [.block shape] =>
    match name with
    | "object" => some (.object .strip shape)
    | _ => none
  | [.schema inner] =>
    match name with
    | "array" => some (.array [] inner)
    | "set" => some (.set [] inner)
    | "promise" => some (.promise inner)
    | _ => none
  | [.schema first, .schema second] =>
    match name with
    | "record" => some (.record first second)
    | "map" => some (.map first second)
    | "intersection" => some (.intersection first second)
    | _ => none
  | _ => none

/-- The schema that a call makes of any schema. -/
def wrap? (s : Schema) (name : String) : List Argument → Option Schema
  | [] => (Modifier.ofMethod? name).map (.modified · s)
  | [.word word] => if name = "default" then word.primitive?.map (.default · s) else none
  | [.schema output] => if name = "pipe" then some (.pipe s output) else none
  | _ => none

/-- The schema with what a call adds to it. -/
def extend? (s : Schema) (name : String) (arguments : List Argument) : Option Schema :=
  match s with
  | .string coerce checks =>
    (StringCheck.ofCall? name arguments).map fun check => .string coerce (checks ++ [check])
  | .number coerce checks =>
    (NumberCheck.ofCall? name arguments).map fun check => .number coerce (checks ++ [check])
  | .array bounds element =>
    (SizeBound.ofCall? lengthName name arguments).map fun bound =>
      .array (bounds ++ [bound]) element
  | .set bounds element =>
    (SizeBound.ofCall? sizeName name arguments).map fun bound => .set (bounds ++ [bound]) element
  | .object .strip shape =>
    match name, arguments with
    | "passthrough", [] => some (.object .passthrough shape)
    | "strict", [] => some (.object .strict shape)
    | "catchall", [.schema catchall] => some (.openObject shape catchall)
    | _, _ => none
  | .tuple items =>
    match name, arguments with
    | "rest", [.schema rest] => some (.openTuple items rest)
    | _, _ => none
  | _ => none

/-- The schema after a call, given the one so far. -/
def step? (sofar : Option Schema) (name : String) (arguments : List Argument) : Option Schema :=
  match sofar with
  | none => start? name arguments
  | some s => wrap? s name arguments <|> extend? s name arguments

end Schema

/-! ## Reading -/

namespace Term

mutual

/-- A term read as an argument. -/
def read? : Term → Option Argument
  | .word w => some (.word w)
  | .list items => (readAll? items).map .list
  | .chain calls => (readCalls? none calls).map .schema
  | .block entries => (readEntries? entries).map .block

def readAll? : List Term → Option (List Argument)
  | [] => some []
  | term :: rest => do
    let argument ← read? term
    let arguments ← readAll? rest
    return argument :: arguments

/-- The schema after some calls, given the one before them. -/
def readCalls? (sofar : Option Schema) : List Call → Option Schema
  | [] => sofar
  | .mk name arguments :: rest => do
    let arguments ← readAll? arguments
    let s ← Schema.step? sofar name.text arguments
    readCalls? (some s) rest

def readEntries? : List (String × List Call) → Option (List (String × Schema))
  | [] => some []
  | (name, calls) :: rest => do
    let s ← readCalls? none calls
    let shape ← readEntries? rest
    return (name, s) :: shape

end

end Term

end SchemaSource
