import SchemaSource.Double.Text
import SchemaSource.Text.Quoted
/-!
JSON values and their compact text. Members keep their order. A number that the text spells as an
integer of 64 bits stays an integer; every other number is a double.
-/
namespace SchemaSource

/-- A JSON value. Objects list their members in order. -/
inductive Json where
  | null
  | bool (value : Bool)
  | int (value : Int)
  | double (value : Double)
  | string (value : String)
  | array (items : List Json)
  | object (members : List (String × Json))
  deriving Inhabited

namespace Json

def member? (members : List (String × Json)) (key : String) : Option Json :=
  (members.find? (·.1 == key)).map (·.2)

def get? (json : Json) (key : String) : Option Json :=
  match json with
  | .object members => member? members key
  | _ => none

def string? : Json → Option String
  | .string value => some value
  | _ => none

def bool? : Json → Option Bool
  | .bool value => some value
  | _ => none

def array? : Json → Option (List Json)
  | .array items => some items
  | _ => none

def double? : Json → Option Double
  | .int value => some (.ofInt value)
  | .double value => some value
  | _ => none

/-- A repeated name keeps the place of its first member and takes the value of the last. -/
def setMember (key : String) (value : Json) : List (String × Json) → List (String × Json)
  | [] => [(key, value)]
  | (name, old) :: rest =>
    if name = key then (name, value) :: rest else (name, old) :: setMember key value rest

/-- The text of a double in JSON, which has no spelling for infinities and not-a-number. -/
def doubleText : Double → String
  | .finite negative mantissa exponent _ =>
    (if negative then "-" else "")
      ++ (if mantissa = 0 then "0.0"
        else Double.Spelling.json.write
          (Double.shortest mantissa exponent Double.Spelling.json.tie))
  | _ => "null"

mutual

/-- The text of a value without blanks. -/
def text : Json → String
  | .null => "null"
  | .bool value => if value then "true" else "false"
  | .int value => toString value
  | .double value => doubleText value
  | .string value => Text.quote value
  | .array items => "[" ++ ",".intercalate (itemTexts items) ++ "]"
  | .object members => "\x7b" ++ ",".intercalate (memberTexts members) ++ "\x7d"

def itemTexts : List Json → List String
  | [] => []
  | item :: rest => text item :: itemTexts rest

def memberTexts : List (String × Json) → List String
  | [] => []
  | (key, value) :: rest => (Text.quote key ++ ":" ++ text value) :: memberTexts rest

end

/-- A number of any kind: an integer below `2 ^ 53` when it is one, and `null` when it is not
finite. -/
def ofDouble (x : Double) : Json :=
  if !x.isFinite then .null
  else match x.integer? with
    | some k => if k.natAbs < 2 ^ 53 then .int k else .double x
    | none => .double x

end Json
end SchemaSource
