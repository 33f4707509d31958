/-!
Documents of named values in nested tables. A document is a list of lines, and a line may name a
table that others have named in passing; how a table came to be decides how it may still grow.
-/
namespace SchemaSource.Toml

inductive Origin where
  /-- A header opened it. -/
  | opened
  /-- A header passed through it. -/
  | implied
  /-- A dotted key passed through it. -/
  | dotted
  /-- It stands complete in braces. -/
  | complete
  deriving DecidableEq, Repr

inductive Value where
  | string (value : String)
  | integer (value : Int)
  | bool (value : Bool)
  | array (items : List Value)
  | table (origin : Origin) (entries : List (String × Value))

abbrev Entries := List (String × Value)

mutual

/-- Every integer in a value fits in 128 bits, with a sign or without. Others can be written but not
looked at. -/
def Value.inRange : Value → Bool
  | .integer value => -2 ^ 127 ≤ value && value < 2 ^ 128
  | .array items => itemsInRange items
  | .table _ entries => entriesInRange entries
  | .string _ | .bool _ => true

def itemsInRange : List Value → Bool
  | [] => true
  | item :: rest => item.inRange && itemsInRange rest

def entriesInRange : List (String × Value) → Bool
  | [] => true
  | (_, value) :: rest => value.inRange && entriesInRange rest

end

/-- A line of a document. The path leads to the table that holds the name. -/
inductive Line where
  | header (path : List String) (name : String)
  | assign (path : List String) (name : String) (value : Value)

def get? (entries : Entries) (name : String) : Option Value :=
  (entries.find? (·.1 == name)).map (·.2)

/-- Put something in the place of a name, given what is there. -/
def change? (name : String) (change : Option Value → Option Value) :
    Entries → Option Entries
  | [] => (change none).map fun value => [(name, value)]
  | (key, value) :: rest =>
    if key = name then (change (some value)).map fun value => (key, value) :: rest
    else (change? name change rest).map fun rest => (key, value) :: rest

/-- Open a table by its header. A table that headers have only passed through may still be opened,
and tables may be opened inside any table that is not complete. -/
def openTable? : List String → String → Entries → Option Entries
  | [], name, entries =>
    change? name (fun
      | none => some (.table .opened [])
      | some (.table .implied inner) => some (.table .opened inner)
      | some _ => none) entries
  | parent :: path, name, entries =>
    change? parent (fun
      | none => (openTable? path name []).map (.table .implied)
      | some (.table .complete _) => none
      | some (.table origin inner) => (openTable? path name inner).map (.table origin)
      | some _ => none) entries

/-- Give a name its value. Names are given a value once. A dotted key adds to tables made by dotted
keys; it may pass through one that headers have passed through, but not add to it. -/
def assign? : List String → String → Value → Entries → Option Entries
  | [], name, value, entries =>
    change? name (fun
      | none => some value
      | some _ => none) entries
  | parent :: path, name, value, entries =>
    change? parent (fun
      | none => (assign? path name value []).map (.table .dotted)
      | some (.table .dotted inner) => (assign? path name value inner).map (.table .dotted)
      | some (.table .implied inner) =>
        if path.isEmpty then none else (assign? path name value inner).map (.table .implied)
      | some _ => none) entries

def within? (change : Entries → Option Entries) : List String → Entries → Option Entries
  | [], entries => change entries
  | parent :: path, entries =>
    change? parent (fun
      | some (.table origin inner) => (within? change path inner).map (.table origin)
      | _ => none) entries

/-- What some lines make of a document. Assignments belong to the table of the last header. -/
def extend? (current : List String) (entries : Entries) : List Line → Option Entries
  | [] => some entries
  | .header path name :: rest => do
    extend? (path ++ [name]) (← openTable? path name entries) rest
  | .assign path name value :: rest => do
    extend? current (← within? (assign? path name value) current entries) rest

def ofLines? (lines : List Line) : Option Entries := extend? [] [] lines

/-- What the assignments between braces make of an empty table. -/
def ofAssignments? (assignments : List (List String × String × Value)) : Option Entries :=
  assignments.foldlM (fun entries (path, name, value) => assign? path name value entries) []

end SchemaSource.Toml
