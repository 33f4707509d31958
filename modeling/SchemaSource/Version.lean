import SchemaSource.Text.Lowercase
/-!
The generations of the schema library that can be read.
-/
namespace SchemaSource

/-- A major version of the schema library. -/
inductive Version where
  | v3
  | v4
  deriving DecidableEq, Repr

namespace Version

def name : Version → String
  | .v3 => "v3"
  | .v4 => "v4"

def ofName? (name : String) : Option Version :=
  if name = "v3" then some .v3 else if name = "v4" then some .v4 else none

/-- The version that a user asks for: its name or number, in letters of either case. -/
def ofText? (text : String) : Option Version :=
  match Text.lowercaseAscii text with
  | "v3" | "3" => some .v3
  | "v4" | "4" => some .v4
  | _ => none

/-- What a user who asked for another version is told. -/
def unsupported (text : String) : String :=
  "unsupported zod version '" ++ Text.lowercaseAscii text ++ "' (expected v3 or v4)"

def describe : Version → String
  | .v3 => "V3"
  | .v4 => "V4"

end Version
end SchemaSource
