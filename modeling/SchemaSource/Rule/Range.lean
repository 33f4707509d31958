import SchemaSource.Rule.Primitive
/-!
Numbers and big integers: chains of bounds. Bounds at zero and the pair of safe integers have
methods of their own, which say the same in a word.
-/
namespace SchemaSource.Rule

inductive RangeCall where
  | min (bound : Option Value)
  | max (bound : Option Value)
  | multipleOf (bound : Option Value)
  /-- A method without an argument. -/
  | flag (method : String)

def RangeCall.text (bound : Option Value → String) : RangeCall → String
  | .min value => callText "min" (bound value)
  | .max value => callText "max" (bound value)
  | .multipleOf value => callText "multipleOf" (bound value)
  | .flag method => callText method ""

/-- A lower bound. At zero, strictness decides between two methods; a bound that says nothing of
strictness is kept. -/
def lowerCall (semantic zero : Bool) (check : Check) : RangeCall :=
  match check.inclusive with
  | some inclusive =>
    if semantic && zero then .flag (if inclusive then "nonnegative" else "positive")
    else .min check.resolved
  | none => .min check.resolved

def upperCall (semantic zero : Bool) (check : Check) : RangeCall :=
  match check.inclusive with
  | some inclusive =>
    if semantic && zero then .flag (if inclusive then "nonpositive" else "negative")
    else .max check.resolved
  | none => .max check.resolved

/-- The bound of a check is the given number. -/
def boundIs (n : Int) (check : Check) : Bool :=
  ((check.resolved.bind Value.number?).bind Double.integer?) == some n

/-- A lower bound at the least safe integer, which is allowed itself. -/
def isLeastSafe (check : Check) : Bool :=
  check.kind == "min" && check.inclusive == some true && boundIs (-Numeral.greatestSafe) check

/-- An upper bound at the greatest safe integer, which is allowed itself. -/
def isGreatestSafe (check : Check) : Bool :=
  check.kind == "max" && check.inclusive == some true && boundIs Numeral.greatestSafe check

/-- Constraints of numbers that take no argument. -/
def bareNumberChecks : List String :=
  ["int", "finite", "safe", "positive", "negative", "nonnegative", "nonpositive"]

/-- The call for a constraint of a number, if there is one. The safe integers need both bounds, the
lower one before the upper. -/
def numberCall? (semantic afterLeastSafe : Bool) (check : Check) : Option RangeCall :=
  let zero := boundIs 0 check
  match check.kind with
  | "min" => some (lowerCall semantic zero check)
  | "max" =>
    some (if semantic && afterLeastSafe && isGreatestSafe check then .flag "safe"
      else upperCall semantic zero check)
  | "multipleOf" => some (.multipleOf check.resolved)
  | kind => if kind ∈ bareNumberChecks then some (.flag kind) else none

def numberCalls (semantic afterLeastSafe : Bool) : List Check → List RangeCall
  | [] => []
  | check :: rest =>
    (numberCall? semantic afterLeastSafe check).toList
      ++ numberCalls semantic (afterLeastSafe || isLeastSafe check) rest

def numberBound (o : Optimizations) (bound : Option Value) : String :=
  o.boundText (bound.getD .undefined)

def number : Rule := fun reading _ definition =>
  let o := reading.optimizations
  let calls := numberCalls o.semanticMethods false definition.fields.checks
  return .text (constructor "number" definition.fields
    ++ String.join (calls.map (·.text (numberBound o))))

/-- Constraints of big integers that take no argument. -/
def bareBigintChecks : List String := ["positive", "negative", "nonnegative", "nonpositive"]

def bigintCall? (semantic : Bool) (check : Check) : Option RangeCall :=
  let zero := check.resolved.bind Value.bigint? == some 0
  match check.kind with
  | "min" => some (lowerCall semantic zero check)
  | "max" => some (upperCall semantic zero check)
  | "multipleOf" => some (.multipleOf check.resolved)
  | kind => if kind ∈ bareBigintChecks then some (.flag kind) else none

/-- A bound of a big integer. Numbers and missing bounds get the suffix too. -/
def bigintBound (o : Optimizations) : Option Value → String
  | some (.number x) => x.text ++ "n"
  | some value => o.boundText value
  | none => "undefinedn"

def bigint : Rule := fun reading _ definition =>
  let o := reading.optimizations
  let calls := definition.fields.checks.filterMap (bigintCall? o.semanticMethods)
  return .text (constructor "bigint" definition.fields
    ++ String.join (calls.map (·.text (bigintBound o))))

end SchemaSource.Rule
