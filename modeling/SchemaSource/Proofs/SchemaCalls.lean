import SchemaSource.Proofs.CallText
import SchemaSource.Proofs.Constraints
import SchemaSource.Proofs.Spelling
/-!
Schemas as chains of calls. A schema without functions, patterns, dates and big integers is told in
full by the chain that builds it.
-/
namespace SchemaSource

open Rule

/-! ## Schemas that are written in full -/

/-- An integer in the range in which doubles skip none. -/
def IsSafe (n : Int) : Prop := n.natAbs < 2 ^ 53

instance (n : Int) : Decidable (IsSafe n) := inferInstanceAs (Decidable (n.natAbs < 2 ^ 53))

inductive SizeBound.IsPlain : SizeBound → Prop
  | intro (extent : Extent) (n : Int) (safe : IsSafe n) : IsPlain ⟨extent, .ofInt n⟩

/-- Constraints of strings but for patterns. -/
inductive StringCheck.IsPlain : StringCheck → Prop
  | size (bound : SizeBound) (plain : bound.IsPlain) : IsPlain (.size bound)
  | format (name : String) (known : name ∈ bareStringChecks) : IsPlain (.format name known)
  | affix (kind : Affix) (operand : String) : IsPlain (.affix kind operand)

/-- Inclusive bounds, divisors and integers. -/
inductive NumberCheck.IsPlain : NumberCheck → Prop
  | least (n : Int) (safe : IsSafe n) : IsPlain (.least true (.ofInt n))
  | greatest (n : Int) (safe : IsSafe n) : IsPlain (.greatest true (.ofInt n))
  | multipleOf (n : Int) (safe : IsSafe n) : IsPlain (.multipleOf (.ofInt n))
  | int (known : "int" ∈ bareNumberChecks) : IsPlain (.method "int" known)

inductive Primitive.IsPlain : Primitive → Prop
  | null : IsPlain .null
  | bool (value : Bool) : IsPlain (.bool value)
  | integer (n : Int) (safe : IsSafe n) : IsPlain (.number (.ofInt n))
  | string (value : String) : IsPlain (.string value)

/-- A node whose text says all there is to it. -/
def Schema.IsPlain : Schema → Prop
  | .string _ checks => ∀ check ∈ checks, check.IsPlain
  | .number _ checks => ∀ check ∈ checks, NumberCheck.IsPlain check
  | .literal value => ∃ primitive : Primitive, primitive.IsPlain ∧ value = primitive.value
  | .default value _ => value.IsPlain
  | .array bounds _ | .set bounds _ => bounds.Nodup ∧ ∀ bound ∈ bounds, bound.IsPlain
  | .openObject _ catchall => catchall ≠ .bare .unknown ∧ catchall ≠ .bare .never
  | .discriminatedUnion discriminator _ => discriminator ≠ ""
  | .bigint .. | .date .. | .recovery .. | .lazy _ | .transform .. => False
  | _ => True

/-! ## Words -/

/-- The integer part of a number, as far as there is one. -/
def Double.whole (x : Double) : Int := x.integer?.getD 0

theorem Double.whole_ofInt {n : Int} (safe : IsSafe n) : (ofInt n).whole = n := by
  rw [whole, integer?_ofInt safe]
  rfl

/-- A spelling as a word. -/
def Spelling.word : Spelling → Word
  | .digits n => .digits n
  | .symbol numeral =>
    if known : numeral.text "" ∈ valueNames then .named _ known else .digits numeral.value

/-- A bound of a number as options spell it. -/
def boundWord (o : Optimizations) (x : Double) : Word :=
  (Spelling.choose o Numeral.ofNumber x.whole).word

def Primitive.word : Primitive → Word
  | .null => .named "null" (by decide)
  | .bool true => .named "true" (by decide)
  | .bool false => .named "false" (by decide)
  | .number x => .digits x.whole
  | .string value => .quoted value

/-- The value as one that JSON writes in one word. -/
def Value.primitive? : Value → Option Primitive
  | .null => some .null
  | .bool value => some (.bool value)
  | .number x => some (.number x)
  | .string value => some (.string value)
  | _ => none

/-! ## Calls -/

def Extent.method (exact : MethodName) : Extent → MethodName
  | .least => .named "min"
  | .greatest => .named "max"
  | .exact => exact

theorem Extent.method_inj {exact : MethodName} (fresh : exact.text ≠ "min" ∧ exact.text ≠ "max")
    {extent other : Extent} (same : extent.method exact = other.method exact) : extent = other := by
  have texts := congrArg MethodName.text same
  have different : "min" ≠ "max" := by decide
  cases extent with
  | least =>
    cases other with
    | least => rfl
    | greatest => exact absurd texts different
    | exact => exact absurd texts.symm fresh.1
  | greatest =>
    cases other with
    | least => exact absurd texts.symm different
    | greatest => rfl
    | exact => exact absurd texts.symm fresh.2
  | exact =>
    cases other with
    | least => exact absurd texts fresh.1
    | greatest => exact absurd texts fresh.2
    | exact => rfl

def SizeBound.call (exact : MethodName) (bound : SizeBound) : Call :=
  .mk (bound.extent.method exact) [.word (.digits bound.size.whole)]

def lengthName : MethodName := .named "length"

def sizeName : MethodName := .named "size"

theorem paren_not_mem_format :
    ∀ name ∈ bareStringChecks, '(' ∉ name.toList := by
  decide

theorem paren_not_mem_method :
    ∀ name ∈ bareNumberChecks, '(' ∉ name.toList := by
  decide

def Affix.methodName : Affix → MethodName
  | .startsWith => .named "startsWith"
  | .endsWith => .named "endsWith"
  | .includes => .named "includes"

/-- The call for a constraint of a string. A pattern has none here. -/
def StringCheck.call? : StringCheck → Option Call
  | .size bound => some (bound.call lengthName)
  | .format name known => some (.mk ⟨name, paren_not_mem_format name known⟩ [])
  | .affix kind operand => some (.mk kind.methodName [.word (.quoted operand)])
  | .pattern _ => none

/-- The call for an inclusive bound, a divisor or a method of a number. -/
def NumberCheck.call (o : Optimizations) (afterLeastSafe : Bool) : NumberCheck → Call
  | .least _ x =>
    if o.semanticMethods && x.whole == 0 then .mk (.named "nonnegative") []
    else .mk (.named "min") [.word (boundWord o x)]
  | .greatest _ x =>
    if o.semanticMethods && afterLeastSafe && x.whole == Numeral.greatestSafe then
      .mk (.named "safe") []
    else if o.semanticMethods && x.whole == 0 then .mk (.named "nonpositive") []
    else .mk (.named "max") [.word (boundWord o x)]
  | .multipleOf x => .mk (.named "multipleOf") [.word (boundWord o x)]
  | .method name known => .mk ⟨name, paren_not_mem_method name known⟩ []

/-- The calls for the constraints of a number, which look back for the least safe integer. -/
def numberCheckCalls (o : Optimizations) (afterLeastSafe : Bool) : List NumberCheck → List Call
  | [] => []
  | check :: rest =>
    NumberCheck.call o afterLeastSafe check
      :: numberCheckCalls o (afterLeastSafe || isLeastSafe (check.check .number)) rest

def Bare.methodName : Bare → MethodName
  | .undefined => .named "undefined"
  | .null => .named "null"
  | .void => .named "void"
  | .any => .named "any"
  | .unknown => .named "unknown"
  | .never => .named "never"
  | .nan => .named "nan"
  | .symbol => .named "symbol"

def Modifier.methodName : Modifier → MethodName
  | .optional => .named "optional"
  | .nullable => .named "nullable"
  | .readonly => .named "readonly"

def Rule.KeyPolicy.calls : Rule.KeyPolicy → List Call
  | .strip => []
  | .passthrough => [.mk (.named "passthrough") []]
  | .strict => [.mk (.named "strict") []]

namespace Schema

mutual

/-- The chain that builds a schema, as far as its text says it. -/
def calls (o : Optimizations) : Schema → List Call
  | .bare kind => [.mk kind.methodName []]
  | .boolean coerce =>
    [.mk (if coerce then .named "coerce.boolean" else .named "boolean") []]
  | .string coerce checks =>
    .mk (if coerce then .named "coerce.string" else .named "string") []
      :: checks.filterMap StringCheck.call?
  | .number coerce checks =>
    .mk (if coerce then .named "coerce.number" else .named "number") []
      :: numberCheckCalls o false checks
  | .literal value =>
    [.mk (.named "literal") (value.primitive?.map fun p => .word p.word).toList]
  | .enumeration members =>
    [.mk (.named "enum") [.list (members.map fun m => .word (.quoted m))]]
  | .modified modifier inner => calls o inner ++ [.mk modifier.methodName []]
  | .default value inner => calls o inner ++ [.mk (.named "default") [.word value.word]]
  | .array bounds element =>
    .mk (.named "array") [.chain (calls o element)] :: bounds.map (SizeBound.call lengthName)
  | .set bounds element =>
    .mk (.named "set") [.chain (calls o element)] :: bounds.map (SizeBound.call sizeName)
  | .object policy shape =>
    .mk (.named "object") [.block (shapeCalls o shape)] :: policy.calls
  | .openObject shape catchall =>
    [.mk (.named "object") [.block (shapeCalls o shape)],
      .mk (.named "catchall") [.chain (calls o catchall)]]
  | .record key value =>
    [.mk (.named "record") [.chain (calls o key), .chain (calls o value)]]
  | .map key value => [.mk (.named "map") [.chain (calls o key), .chain (calls o value)]]
  | .tuple items => [.mk (.named "tuple") [.list (chains o items)]]
  | .openTuple items rest =>
    [.mk (.named "tuple") [.list (chains o items)],
      .mk (.named "rest") [.chain (calls o rest)]]
  | .union options => [.mk (.named "union") [.list (chains o options)]]
  | .discriminatedUnion discriminator options =>
    [.mk (.named "discriminatedUnion")
      [.word (.quoted discriminator), .list (chains o options)]]
  | .intersection left right =>
    [.mk (.named "intersection") [.chain (calls o left), .chain (calls o right)]]
  | .promise inner => [.mk (.named "promise") [.chain (calls o inner)]]
  | .pipe input output =>
    calls o input ++ [.mk (.named "pipe") [.chain (calls o output)]]
  | _ => []

def chains (o : Optimizations) : List Schema → List Term
  | [] => []
  | s :: rest => .chain (calls o s) :: chains o rest

def shapeCalls (o : Optimizations) : List (String × Schema) → List (String × List Call)
  | [] => []
  | (name, s) :: rest => (name, calls o s) :: shapeCalls o rest

end

end Schema

end SchemaSource
