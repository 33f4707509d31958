import SchemaSource.Options
import SchemaSource.Value.Json
/-!
Numbers as source text. A fixed set of well known bounds has symbolic spellings that say where the
number comes from; only an exact match is respelled.
-/
namespace SchemaSource

/-- A symbolic spelling of an integer. -/
inductive Numeral where
  | maxSafe
  | minSafe
  | power (exponent : Nat)
  | powerLessOne (exponent : Nat)
  | negatedPower (exponent : Nat)
  | negatedPowerLessOne (exponent : Nat)
  deriving DecidableEq, Repr

namespace Numeral

/-- The greatest integer below which doubles skip none. -/
def greatestSafe : Int := 2 ^ 53 - 1

/-- The integer that a spelling stands for. A leading minus applies to the whole power. -/
def value : Numeral → Int
  | .maxSafe => greatestSafe
  | .minSafe => -greatestSafe
  | .power k => 2 ^ k
  | .powerLessOne k => 2 ^ k - 1
  | .negatedPower k => -2 ^ k
  | .negatedPowerLessOne k => -(2 ^ k - 1)

/-- A spelling whose literals all carry a suffix. -/
def text (suffix : String) : Numeral → String
  | .maxSafe => "Number.MAX_SAFE_INTEGER"
  | .minSafe => "Number.MIN_SAFE_INTEGER"
  | .power k => powerText k
  | .powerLessOne k => powerText k ++ " - 1" ++ suffix
  | .negatedPower k => "-" ++ powerText k
  | .negatedPowerLessOne k => "-(" ++ powerText k ++ " - 1" ++ suffix ++ ")"
where
  powerText (k : Nat) : String := "2" ++ suffix ++ "**" ++ toString k ++ suffix

/-- The spellings for numbers: the safe integers and the bounds of 8, 16 and 32 bit integers. -/
def ofNumber : List Numeral :=
  [.maxSafe, .minSafe]
    ++ [7, 15, 31].map .powerLessOne
    ++ [7, 15, 31].map .negatedPower
    ++ [8, 16, 32].map .power
    ++ [8, 16, 32].map .powerLessOne

/-- The spellings for big integers: the bounds of signed 64 bit integers, and powers of two and
their predecessors, of either sign. -/
def ofBigint : List Numeral :=
  [.powerLessOne 63, .negatedPower 63]
    ++ [8, 16, 32, 64].flatMap fun k =>
      [.power k, .negatedPower k, .powerLessOne k, .negatedPowerLessOne k]

def find? (spellings : List Numeral) (n : Int) : Option Numeral :=
  spellings.find? (·.value == n)

end Numeral

/-- A number, symbolic where it is a well known bound. -/
def Double.symbolicText (x : Double) : String :=
  match x.integer?.bind (Numeral.find? Numeral.ofNumber) with
  | some spelling => spelling.text ""
  | none => x.text

def bigintText (n : Int) : String := toString n ++ "n"

/-- A big integer, symbolic where it is a well known bound. -/
def symbolicBigintText (n : Int) : String :=
  match Numeral.find? Numeral.ofBigint n with
  | some spelling => spelling.text "n"
  | none => bigintText n

def Optimizations.numberText (o : Optimizations) (x : Double) : String :=
  if o.scientificNotation then x.symbolicText else x.text

def Optimizations.bigintText (o : Optimizations) (n : Int) : String :=
  if o.scientificNotation then symbolicBigintText n else SchemaSource.bigintText n

/-- A bound of any kind. Strings stand bare; what has no literal is written as JSON. -/
def Optimizations.boundText (o : Optimizations) : Value → String
  | .number x => o.numberText x
  | .bigint n => o.bigintText n
  | .string s => s
  | .bool b => if b then "true" else "false"
  | .null => "null"
  | .undefined => "undefined"
  | value => value.jsonTextOrUndefined

end SchemaSource
