import SchemaSource.Instant
import SchemaSource.Json
/-!
Runtime values as a schema library holds them. A function is known by what it does in the two calls
that are ever made: one without arguments, and one that hands it a failed parse.
-/
namespace SchemaSource

structure RegExp where
  source : String
  flags : String
  deriving DecidableEq, Repr

/-- An empty pattern needs a group, or the literal would open a comment. -/
def RegExp.text (r : RegExp) : String :=
  "/" ++ (if r.source.isEmpty then "(?:)" else r.source) ++ "/" ++ r.flags

mutual

/-- A runtime value. Objects list their properties in order. -/
inductive Value where
  | undefined
  | null
  | bool (value : Bool)
  | number (value : Double)
  | bigint (value : Int)
  | string (value : String)
  | date (value : Instant)
  | regexp (value : RegExp)
  | array (items : List Value)
  | object (fields : List (String × Value))
  | function (called : Outcome) (recovering : Outcome)

inductive Outcome where
  | returns (value : Value)
  | throws (message : String)

end

abbrev Fields := List (String × Value)

instance : Inhabited Value := ⟨.undefined⟩

/-- The value of the first property of a name. -/
def Fields.get? (fields : Fields) (key : String) : Option Value :=
  match fields with
  | [] => none
  | (name, value) :: rest => if name = key then some value else Fields.get? rest key

def Fields.keys (fields : Fields) : List String := fields.map (·.1)

def Fields.values (fields : Fields) : List Value := fields.map (·.2)

namespace Value

/-- A function that ends every call alike. -/
def constantFunction (outcome : Outcome) : Value := .function outcome outcome

/-- A function that returns one value, whatever it is called with. -/
def thunk (value : Value) : Value := constantFunction (.returns value)

def get? (value : Value) (key : String) : Option Value :=
  match value with
  | .object fields => Fields.get? fields key
  | _ => none

def fields? : Value → Option Fields
  | .object fields => some fields
  | _ => none

def items? : Value → Option (List Value)
  | .array items => some items
  | _ => none

def string? : Value → Option String
  | .string value => some value
  | _ => none

def number? : Value → Option Double
  | .number value => some value
  | _ => none

def bool? : Value → Option Bool
  | .bool value => some value
  | _ => none

def bigint? : Value → Option Int
  | .bigint value => some value
  | _ => none

def isObject : Value → Bool
  | .object _ => true
  | _ => false

def isFunction : Value → Bool
  | .function .. => true
  | _ => false

def isUndefined : Value → Bool
  | .undefined => true
  | _ => false

def isNothing : Value → Bool
  | .undefined | .null => true
  | _ => false

theorem fields?_eq_some_iff {value : Value} {fields : Fields} :
    value.fields? = some fields ↔ value = .object fields := by
  cases value <;> simp [fields?]

theorem string?_eq_some_iff {value : Value} {text : String} :
    value.string? = some text ↔ value = .string text := by
  cases value <;> simp [string?]

theorem bool?_eq_some_iff {value : Value} {flag : Bool} :
    value.bool? = some flag ↔ value = .bool flag := by
  cases value <;> simp [bool?]

theorem isNothing_iff {value : Value} :
    value.isNothing = true ↔ value = .undefined ∨ value = .null := by
  cases value <;> simp [isNothing]

def countsAsTrue : Value → Bool
  | .undefined | .null => false
  | .bool value => value
  | .number value => !value.isZero && !value.isNaN
  | .bigint value => value ≠ 0
  | .string value => !value.isEmpty
  | _ => true

/-- The name of the kind of a value, in which all structured values but functions are objects. -/
def kindName : Value → String
  | .undefined => "undefined"
  | .bool _ => "boolean"
  | .number _ => "number"
  | .bigint _ => "bigint"
  | .string _ => "string"
  | .function .. => "function"
  | .null | .date _ | .regexp _ | .array _ | .object _ => "object"

mutual

/-- The number of values that make up a value. -/
def weight : Value → Nat
  | .array items => 1 + itemsWeight items
  | .object fields => 1 + fieldsWeight fields
  | .function called recovering => 1 + outcomeWeight called + outcomeWeight recovering
  | _ => 1

def itemsWeight : List Value → Nat
  | [] => 0
  | item :: rest => weight item + itemsWeight rest

def fieldsWeight : List (String × Value) → Nat
  | [] => 0
  | (_, value) :: rest => weight value + fieldsWeight rest

def outcomeWeight : Outcome → Nat
  | .returns value => weight value
  | .throws _ => 0

end

theorem weight_le_itemsWeight {item : Value} {items : List Value} (h : item ∈ items) :
    weight item ≤ itemsWeight items := by
  induction items with
  | nil => cases h
  | cons first rest ih =>
    simp only [itemsWeight]
    cases h with
    | head => omega
    | tail _ h => have := ih h; omega

theorem weight_le_fieldsWeight {key : String} {value : Value} {fields : Fields}
    (h : (key, value) ∈ fields) : weight value ≤ fieldsWeight fields := by
  induction fields with
  | nil => cases h
  | cons first rest ih =>
    cases h with
    | head => exact Nat.le_add_right _ _
    | tail _ h => exact Nat.le_trans (ih h) (Nat.le_add_left _ _)

end Value

theorem Fields.mem_of_get? {fields : Fields} {key : String} {value : Value}
    (h : fields.get? key = some value) : (key, value) ∈ fields := by
  induction fields with
  | nil => simp [Fields.get?] at h
  | cons first rest ih =>
    obtain ⟨name, first⟩ := first
    simp only [Fields.get?] at h
    split at h
    · simp_all
    · exact List.mem_cons_of_mem _ (ih h)

end SchemaSource
