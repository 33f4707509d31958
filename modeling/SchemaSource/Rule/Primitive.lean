import SchemaSource.Instant.Reader
import SchemaSource.Rule
/-!
Schemas of primitive values: a constructor and a chain of calls, one for each constraint that has a
method of its own.
-/
namespace SchemaSource.Rule

def bare (name : String) : Rule := fun _ _ _ =>
  return .text ("z." ++ name ++ "()")

/-- A constructor, which may convert its input first. -/
def constructor (name : String) (definition : Fields) : String :=
  if (definition.get? "coerce").any Value.countsAsTrue then "z.coerce." ++ name ++ "()"
  else "z." ++ name ++ "()"

def callText (method argument : String) : String := "." ++ method ++ "(" ++ argument ++ ")"

/-- A count or length, written as it stands. -/
def countText (value : Option Value) : String :=
  Optimizations.none.boundText (value.getD .undefined)

def boolean : Rule := fun _ _ definition =>
  return .text (constructor "boolean" definition.fields)

/-- Constraints of strings that take no argument. -/
def bareStringChecks : List String :=
  ["email", "url", "uuid", "cuid", "cuid2", "ulid", "nanoid", "emoji", "base64", "base64url",
   "jwt", "datetime", "date", "time", "duration", "ip", "cidr", "trim", "toLowerCase",
   "toUpperCase"]

def stringCall? (check : Check) : Option String :=
  match check.kind with
  | "min" | "max" | "length" => some (callText check.kind (countText check.resolved))
  | "regex" =>
    match check.pattern <|> check.value with
    | some (.regexp pattern) => some (callText "regex" pattern.text)
    | _ => none
  | "startsWith" | "endsWith" | "includes" =>
    some (callText check.kind ((check.resolved.bind Value.jsonText?).getD "undefined"))
  | kind => if kind ∈ bareStringChecks then some (callText kind "") else none

def string : Rule := fun _ _ definition =>
  let calls := definition.fields.checks.filterMap stringCall?
  return .text (constructor "string" definition.fields ++ String.join calls)

/-- The text that a date has in a bound. Numbers count milliseconds. -/
def dateText : Option Value → Except RenderFault String
  | some (.date date) => .ok date.isoText
  | some (.number millis) =>
    match Instant.ofMillis? millis with
    | some date => .ok date.isoText
    | none => .error (.invalidDate millis.text)
  | some (.string text) =>
    match Instant.ofText text with
    | .ok date => .ok date.isoText
    | .error _ => .error (.invalidDate text)
  | some value => .error (.invalidDate value.kindName)
  | none => .error (.invalidDate "undefined")

/-- The calls for the bounds of a date. The first bound that is no date is the error. -/
def dateCalls : List Check → Except RenderFault (List String)
  | [] => .ok []
  | check :: rest =>
    if check.kind = "min" ∨ check.kind = "max" then do
      let text ← dateText check.resolved
      let calls ← dateCalls rest
      return callText check.kind ("new Date(" ++ Text.quote text ++ ")") :: calls
    else dateCalls rest

def date : Rule := fun _ _ definition => do
  let calls ← dateCalls definition.fields.checks
  return .text (constructor "date" definition.fields ++ String.join calls)

end SchemaSource.Rule
