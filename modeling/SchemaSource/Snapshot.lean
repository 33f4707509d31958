import SchemaSource.Instant.Reader
import SchemaSource.Json.Reader
import SchemaSource.Storage.Fault
import SchemaSource.Value
/-!
Snapshots: JSON objects that map names to runtime values. Values that JSON lacks are written as
objects whose only key is a marker. Decoding fails exactly on a marker whose payload does not fit.
-/
namespace SchemaSource

/-- The key that says which value an object of one member stands for. -/
inductive Marker where
  | undefined
  | bigint
  | date
  | regex
  | function
  | throws
  deriving DecidableEq, Repr

namespace Marker

def key : Marker → String
  | .undefined => "$undefined"
  | .bigint => "$bigint"
  | .date => "$date"
  | .regex => "$regex"
  | .function => "$function"
  | .throws => "$throws"

def all : List Marker := [.undefined, .bigint, .date, .regex, .function, .throws]

def ofKey? (key : String) : Option Marker := all.find? (·.key == key)

end Marker

inductive MarkerFault where
  | bigintNotString
  | bigintNotInteger (text : String)
  | dateNotString
  | dateInvalid (text : String) (reason : Instant.TextError)
  | regexWithoutSource
  deriving DecidableEq, Repr

namespace MarkerFault

def marker : MarkerFault → Marker
  | .bigintNotString | .bigintNotInteger _ => .bigint
  | .dateNotString | .dateInvalid .. => .date
  | .regexWithoutSource => .regex

def reason : MarkerFault → String
  | .bigintNotString => "expected a decimal string"
  | .bigintNotInteger text => "'" ++ text ++ "' is not an integer"
  | .dateNotString => "expected an ISO-8601 string"
  | .dateInvalid text reason => "'" ++ text ++ "': " ++ reason.message
  | .regexWithoutSource => "missing 'source'"

def message (fault : MarkerFault) : String :=
  "Invalid '" ++ fault.marker.key ++ "' value: " ++ fault.reason

end MarkerFault

/-- The integer that a decimal text spells. Underscores may separate digits. -/
def integerOfText? (text : String) : Option Int :=
  match text.toList with
  | '-' :: digits => (magnitude? digits).map fun n => -(n : Int)
  | '+' :: digits => (magnitude? digits).map fun n => (n : Int)
  | digits => (magnitude? digits).map fun n => (n : Int)
where
  magnitude? (digits : List Char) : Option Nat :=
    match digits with
    | [] => none
    | first :: _ =>
      if first.isDigit && digits.all (fun c => c.isDigit || c == '_') then
        some (Json.Reader.decimalValue (digits.filter (· != '_')))
      else none

namespace Snapshot

def decodeBigint (payload : Json) : Except MarkerFault Value :=
  match payload with
  | .string text =>
    match integerOfText? text with
    | some n => .ok (.bigint n)
    | none => .error (.bigintNotInteger text)
  | _ => .error .bigintNotString

def decodeDate (payload : Json) : Except MarkerFault Value :=
  match payload with
  | .string text =>
    match Instant.ofText text with
    | .ok date => .ok (.date date)
    | .error reason => .error (.dateInvalid text reason)
  | _ => .error .dateNotString

/-- Flags may be missing. -/
def decodeRegex (payload : Json) : Except MarkerFault Value :=
  match (payload.get? "source").bind Json.string? with
  | some source =>
    .ok (.regexp ⟨source, ((payload.get? "flags").bind Json.string?).getD ""⟩)
  | none => .error .regexWithoutSource

/-- A function that throws needs no message of its own. -/
def decodeThrows (payload : Json) : Value :=
  .constantFunction (.throws (payload.string?.getD "thrown from snapshot"))

mutual

def decode : Json → Except MarkerFault Value
  | .null => .ok .null
  | .bool value => .ok (.bool value)
  | .int value => .ok (.number (.ofInt value))
  | .double value => .ok (.number value)
  | .string value => .ok (.string value)
  | .array items => do return .array (← decodeItems items)
  | .object [(key, payload)] =>
    match Marker.ofKey? key with
    | some .undefined => .ok .undefined
    | some .bigint => decodeBigint payload
    | some .date => decodeDate payload
    | some .regex => decodeRegex payload
    | some .function => do return .thunk (← decode payload)
    | some .throws => .ok (decodeThrows payload)
    | none => do return .object [(key, ← decode payload)]
  | .object members => do return .object (← decodeMembers members)

def decodeItems : List Json → Except MarkerFault (List Value)
  | [] => .ok []
  | item :: rest => do
    let value ← decode item
    let values ← decodeItems rest
    return value :: values

def decodeMembers : List (String × Json) → Except MarkerFault Fields
  | [] => .ok []
  | (key, member) :: rest => do
    let value ← decode member
    let values ← decodeMembers rest
    return (key, value) :: values

end

end Snapshot

inductive SnapshotFault where
  | notFound (path : String)
  | unreadable (path : String) (fault : StorageFault)
  | invalidJson
  | notAnObject
  | invalidMarker (fault : MarkerFault)
  deriving DecidableEq, Repr

def SnapshotFault.message : SnapshotFault → String
  | .notFound path => "Snapshot not found: " ++ path
  | .unreadable path fault => "Failed to read " ++ path ++ ": " ++ fault.message
  | .invalidJson => "Invalid JSON: the text is not a JSON value"
  | .notAnObject => "Snapshot root must be an object mapping export names to schemas"
  | .invalidMarker fault => fault.message

namespace Snapshot

/-- The named values of a snapshot. Names are taken as they are, even one that looks like a
marker. -/
def ofJson : Json → Except SnapshotFault Fields
  | .object members => (decodeMembers members).mapError .invalidMarker
  | _ => .error .notAnObject

def ofText (text : String) : Except SnapshotFault Fields :=
  match Json.ofText? text with
  | some json => ofJson json
  | none => .error .invalidJson

end Snapshot
end SchemaSource
