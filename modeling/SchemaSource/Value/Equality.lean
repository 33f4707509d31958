import SchemaSource.Value
/-!
Equality of runtime values as the program sees it: numbers compare numerically, objects without
regard to the order of their properties, and functions by identity alone.
-/
namespace SchemaSource.Value

mutual

/-- Equality of two values. Identity is no part of a function's behaviour, so the caller says
whether functions in the same place are the same one, as they are in a value and its own copy. -/
def equal (sameFunctions : Bool) : Value → Value → Bool
  | .undefined, .undefined => true
  | .null, .null => true
  | .bool a, .bool b => a == b
  | .number a, .number b => a.equal b
  | .bigint a, .bigint b => a == b
  | .string a, .string b => a == b
  | .date a, .date b => a == b
  | .regexp a, .regexp b => a == b
  | .array a, .array b => itemsEqual sameFunctions a b
  | .object a, .object b => a.length == b.length && fieldsWithin sameFunctions a b
  | .function .., .function .. => sameFunctions
  | _, _ => false

/-- The same values in the same order. -/
def itemsEqual (sameFunctions : Bool) : List Value → List Value → Bool
  | [], [] => true
  | a :: as, b :: bs => equal sameFunctions a b && itemsEqual sameFunctions as bs
  | _, _ => false

/-- Every property of the first object has an equal one in the second. -/
def fieldsWithin (sameFunctions : Bool) : List (String × Value) → Fields → Bool
  | [], _ => true
  | (key, value) :: rest, other =>
    (match other.get? key with
      | some found => equal sameFunctions value found
      | none => false)
      && fieldsWithin sameFunctions rest other

end

end SchemaSource.Value
