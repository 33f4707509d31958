import SchemaSource.Text.Lowercase
import SchemaSource.Text.ShapeTable
/-!
Descriptions of values for a reader who looks into the program: names, fields and quoted strings in
which every character can be seen.
-/
namespace SchemaSource.Text

def isReadable (c : Char) : Bool :=
  if c.toNat < 0x80 then 0x20 ≤ c.toNat && c.toNat < 0x7F else !inRanges shapelessRanges c

/-- A character of a described string. What cannot be read is given by its number. -/
def describeChar (c : Char) : List Char :=
  if c = '"' then ['\\', '"']
  else if c = '\\' then ['\\', '\\']
  else if c = '\t' then ['\\', 't']
  else if c = '\n' then ['\\', 'n']
  else if c = '\r' then ['\\', 'r']
  else if c = '\x00' then ['\\', '0']
  else if isReadable c then [c]
  else ['\\', 'u', '\x7b'] ++ Nat.toDigits 16 c.toNat ++ ['\x7d']

def describeString (s : String) : String :=
  String.ofList ('"' :: (s.toList.flatMap describeChar ++ ['"']))

def describeBool (b : Bool) : String := if b then "true" else "false"

def describeOption {α : Type} (describe : α → String) : Option α → String
  | none => "None"
  | some value => "Some(" ++ describe value ++ ")"

def describeList (items : List String) : String := "[" ++ ", ".intercalate items ++ "]"

/-- A name with described fields; fields that are not shown leave a trace. -/
def describeRecord (name : String) (fields : List (String × String)) (complete : Bool) : String :=
  let shown := fields.map fun (field, value) => field ++ ": " ++ value
  let all := if complete then shown else shown ++ [".."]
  if all.isEmpty then name else name ++ " \x7b " ++ ", ".intercalate all ++ " \x7d"

end SchemaSource.Text
