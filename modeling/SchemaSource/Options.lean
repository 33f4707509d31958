import SchemaSource.Json
/-!
The settings of one rendering: how it is laid out, and which shorter or more telling spellings it
may use. Settings that are not given keep their defaults.
-/
namespace SchemaSource

/-- Spellings that say what a bound means rather than what it is. -/
structure Optimizations where
  /-- Bounds at zero and at the safe integers become the methods named for them. -/
  semanticMethods : Bool := true
  /-- Well known bounds are written as powers. -/
  scientificNotation : Bool := true
  deriving DecidableEq, Repr

/-- Every constraint is written as it stands. -/
def Optimizations.none : Optimizations := ⟨false, false⟩

structure Options where
  /-- The text of one level of indentation. -/
  indent : String := "  "
  /-- The level at which the text will stand. -/
  indentLevel : Nat := 0
  /-- Objects take one line for each property. -/
  format : Bool := true
  optimizations : Optimizations := {}
  deriving DecidableEq, Repr

def Options.compact : Options := { format := false }

namespace Options

/-- Settings by name, or listed in their order. -/
abbrev Given := List (Option Json)

/-- The settings that a JSON value gives for the fields of these names. Other members are ignored; a
list may stop early but not go on. -/
def given? (names : List String) : Json → Option Given
  | .object members => some (names.map (Json.member? members))
  | .array items =>
    if items.length ≤ names.length then
      some ((items.map some) ++ List.replicate (names.length - items.length) none)
    else none
  | _ => none

/-- A setting of the right kind, or the default where none is given. -/
def settingOr {α : Type} (default : α) (read : Json → Option α) : Option Json → Option α
  | none => some default
  | some json => read json

/-- A number of levels is spelled as an integer. -/
def level? : Json → Option Nat
  | .int value => if 0 ≤ value then some value.toNat else none
  | _ => none

end Options

open Options in
def Optimizations.ofJson? (json : Json) : Option Optimizations := do
  match ← given? ["semanticMethods", "scientificNotation"] json with
  | [semantic, scientific] =>
    return {
      semanticMethods := ← settingOr true Json.bool? semantic
      scientificNotation := ← settingOr true Json.bool? scientific }
  | _ => none

namespace Options

def ofJson? (json : Json) : Option Options := do
  match ← given? ["indent", "indentLevel", "format", "optimizations"] json with
  | [indent, level, format, optimizations] =>
    return {
      indent := ← settingOr "  " Json.string? indent
      indentLevel := ← settingOr 0 level? level
      format := ← settingOr true Json.bool? format
      optimizations := ← settingOr {} Optimizations.ofJson? optimizations }
  | _ => none

end Options
end SchemaSource
