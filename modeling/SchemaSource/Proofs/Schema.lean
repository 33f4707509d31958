import SchemaSource.Kind
/-!
Schemas as their authors build them, and the values that hold them. A value keeps each node in the
layout of one version: under the name of its class, or in an inner object that names its kind. The
layouts of a graph are chosen node by node.
-/
namespace SchemaSource

/-! ## Constraints -/

/-- Which end of a range a size bounds. -/
inductive Extent where
  | least
  | greatest
  | exact
  deriving DecidableEq

structure SizeBound where
  extent : Extent
  size : Double
  deriving DecidableEq

/-- What a part of a string has to be. -/
inductive Affix where
  | startsWith
  | endsWith
  | includes
  deriving DecidableEq

inductive StringCheck where
  | size (bound : SizeBound)
  | format (name : String) (known : name ∈ Rule.bareStringChecks)
  | pattern (regexp : RegExp)
  | affix (kind : Affix) (operand : String)

/-- A constraint on a range of numbers, with the methods that take no argument. -/
inductive RangeCheck (α : Type) (methods : List String) where
  | least (inclusive : Bool) (bound : α)
  | greatest (inclusive : Bool) (bound : α)
  | multipleOf (bound : α)
  | method (name : String) (known : name ∈ methods)

abbrev NumberCheck := RangeCheck Double Rule.bareNumberChecks

abbrev BigintCheck := RangeCheck Int Rule.bareBigintChecks

/-- A first or a last date. Whether the bound is a date shows only when it is written. -/
structure DateCheck where
  last : Bool
  bound : Value

/-! ## Schemas -/

/-- Kinds without settings. -/
inductive Bare where
  | undefined | null | void | any | unknown | never | nan | symbol
  deriving DecidableEq

inductive Modifier where
  | optional
  | nullable
  | readonly
  deriving DecidableEq

/-- A value that JSON writes in one word. -/
inductive Primitive where
  | null
  | bool (value : Bool)
  | number (value : Double)
  | string (value : String)
  deriving DecidableEq

/-- A function, known by how its two calls end. -/
structure Callback where
  called : Outcome
  recovering : Outcome

inductive Schema where
  | bare (kind : Bare)
  | boolean (coerce : Bool)
  | string (coerce : Bool) (checks : List StringCheck)
  | number (coerce : Bool) (checks : List NumberCheck)
  | bigint (coerce : Bool) (checks : List BigintCheck)
  | date (coerce : Bool) (checks : List DateCheck)
  | literal (value : Value)
  | enumeration (members : List String)
  | modified (modifier : Modifier) (inner : Schema)
  | default (value : Primitive) (inner : Schema)
  | recovery (getter : Callback) (inner : Schema)
  | array (bounds : List SizeBound) (element : Schema)
  | set (bounds : List SizeBound) (element : Schema)
  | object (policy : Rule.KeyPolicy) (shape : List (String × Schema))
  /-- An object whose unnamed properties have a schema of their own. -/
  | openObject (shape : List (String × Schema)) (catchall : Schema)
  | record (key value : Schema)
  | map (key value : Schema)
  | tuple (items : List Schema)
  | openTuple (items : List Schema) (rest : Schema)
  | union (options : List Schema)
  | discriminatedUnion (discriminator : String) (options : List Schema)
  | intersection (left right : Schema)
  | promise (inner : Schema)
  | lazy (getter : Callback)
  | transform (callback : Callback) (inner : Schema)
  | pipe (input output : Schema)

namespace Schema

def children : Schema → List Schema
  | .modified _ inner | .default _ inner | .recovery _ inner | .array _ inner | .set _ inner
  | .promise inner | .transform _ inner => [inner]
  | .object _ shape => shape.map (·.2)
  | .openObject shape catchall => catchall :: shape.map (·.2)
  | .record first second | .map first second | .intersection first second
  | .pipe first second => [first, second]
  | .tuple items => items
  | .openTuple items rest => rest :: items
  | .union options | .discriminatedUnion _ options => options
  | _ => []

/-- A condition holds at every node. -/
inductive Within (fits : Schema → Prop) : Schema → Prop
  | intro (s : Schema) (here : fits s) (below : ∀ child ∈ s.children, Within fits child) :
      Within fits s

theorem Within.leaf {fits : Schema → Prop} {s : Schema} (here : fits s)
    (alone : s.children = []) : s.Within fits :=
  .intro s here (by simp [alone])

end Schema

/-! ## Values that hold constraints -/

/-- A flat entry, which names its kind itself. -/
def flatEntry (kind : String) (fields : Fields) : Value :=
  .object (("kind", .string kind) :: fields)

/-- An entry with a definition inside, which names a check. -/
def namedEntry (check : String) (fields : Fields) : Value :=
  .object [("_zod", .object [("def", .object (("check", .string check) :: fields))])]

/-- The names of the checks on a size: the method of an exact size, and for each extent the check
and the field of its bound. -/
structure SizeNames where
  exact : String
  check : Extent → String
  field : Extent → String

def lengthNames : SizeNames where
  exact := "length"
  check
    | .least => "min_length"
    | .greatest => "max_length"
    | .exact => "length_equals"
  field
    | .least => "minimum"
    | .greatest => "maximum"
    | .exact => "length"

def setSizeNames : SizeNames where
  exact := "size"
  check
    | .least => "min_size"
    | .greatest => "max_size"
    | .exact => "size_equals"
  field
    | .least => "minimum"
    | .greatest => "maximum"
    | .exact => "size"

/-- The method that sets a bound. -/
def SizeNames.method (names : SizeNames) : Extent → String
  | .least => "min"
  | .greatest => "max"
  | .exact => names.exact

def SizeBound.entry (names : SizeNames) (layout : Version) (bound : SizeBound) : Value :=
  match layout with
  | .v3 => flatEntry (names.method bound.extent) [("value", .number bound.size)]
  | .v4 => namedEntry (names.check bound.extent) [(names.field bound.extent, .number bound.size)]

def Affix.method : Affix → String
  | .startsWith => "startsWith"
  | .endsWith => "endsWith"
  | .includes => "includes"

def Affix.format : Affix → String
  | .startsWith => "starts_with"
  | .endsWith => "ends_with"
  | .includes => "includes"

def Affix.field : Affix → String
  | .startsWith => "prefix"
  | .endsWith => "suffix"
  | .includes => "includes"

/-- The name of a check without an operand. Changes of a string are no formats. -/
def formatEntry (name : String) : Value :=
  match name with
  | "trim" => namedEntry "trim" []
  | "toLowerCase" => namedEntry "to_lower_case" []
  | "toUpperCase" => namedEntry "to_upper_case" []
  | name => namedEntry "string_format" [("format", .string name)]

def StringCheck.entry (layout : Version) (check : StringCheck) : Value :=
  match check, layout with
  | .size bound, layout => bound.entry lengthNames layout
  | .format name _, .v3 => flatEntry name []
  | .format name _, .v4 => formatEntry name
  | .pattern regexp, .v3 => flatEntry "regex" [("regex", .regexp regexp)]
  | .pattern regexp, .v4 =>
    namedEntry "string_format" [("format", .string "regex"), ("pattern", .regexp regexp)]
  | .affix kind operand, .v3 => flatEntry kind.method [("value", .string operand)]
  | .affix kind operand, .v4 =>
    namedEntry "string_format" [("format", .string kind.format), (kind.field, .string operand)]

/-- Strictness is a flag in a flat entry and part of the name of a check elsewhere. -/
def RangeCheck.entry {α : Type} {methods : List String} (value : α → Value) (layout : Version)
    (check : RangeCheck α methods) : Value :=
  match check, layout with
  | .least inclusive bound, .v3 =>
    flatEntry "min" [("value", value bound), ("inclusive", .bool inclusive)]
  | .least inclusive bound, .v4 =>
    namedEntry (if inclusive then "greater_than_or_equal" else "greater_than")
      [("value", value bound)]
  | .greatest inclusive bound, .v3 =>
    flatEntry "max" [("value", value bound), ("inclusive", .bool inclusive)]
  | .greatest inclusive bound, .v4 =>
    namedEntry (if inclusive then "less_than_or_equal" else "less_than") [("value", value bound)]
  | .multipleOf bound, .v3 => flatEntry "multipleOf" [("value", value bound)]
  | .multipleOf bound, .v4 => namedEntry "multiple_of" [("value", value bound)]
  | .method name _, .v3 => flatEntry name []
  | .method name _, .v4 =>
    if name = "int" then namedEntry "number_format" [("format", .string "safeint")]
    else namedEntry name []

def DateCheck.entry (layout : Version) (check : DateCheck) : Value :=
  match layout with
  | .v3 => flatEntry (if check.last then "max" else "min") [("value", check.bound)]
  | .v4 =>
    namedEntry (if check.last then "less_than_or_equal" else "greater_than_or_equal")
      [("value", check.bound)]

/-! ## Values that hold schemas -/

/-- A schema under the name of its class. -/
def classNode (name : String) (fields : Fields) : Value :=
  .object [("_def", .object (("typeName", .string ("Zod" ++ name)) :: fields))]

/-- A schema in an inner object that names its kind. -/
def kindNode (tag : String) (fields : Fields) : Value :=
  .object [("_zod", .object [("def", .object (("type", .string tag) :: fields))])]

/-- A node with the same fields in either layout. -/
def node (layout : Version) (name tag : String) (fields : Fields) : Value :=
  match layout with
  | .v3 => classNode name fields
  | .v4 => kindNode tag fields

/-- The layout of each node, by the way that leads to it. -/
abbrev Layouts := List Nat → Version

namespace Layouts

def all (layout : Version) : Layouts := fun _ => layout

/-- The layouts below a child. -/
def below (layouts : Layouts) (child : Nat) : Layouts := fun path => layouts (child :: path)

end Layouts

namespace Bare

def name : Bare → String
  | .undefined => "Undefined"
  | .null => "Null"
  | .void => "Void"
  | .any => "Any"
  | .unknown => "Unknown"
  | .never => "Never"
  | .nan => "NaN"
  | .symbol => "Symbol"

def tag : Bare → String
  | .undefined => "undefined"
  | .null => "null"
  | .void => "void"
  | .any => "any"
  | .unknown => "unknown"
  | .never => "never"
  | .nan => "nan"
  | .symbol => "symbol"

def node (layout : Version) (kind : Bare) : Value :=
  SchemaSource.node layout kind.name kind.tag []

end Bare

namespace Modifier

def name : Modifier → String
  | .optional => "Optional"
  | .nullable => "Nullable"
  | .readonly => "Readonly"

def tag : Modifier → String
  | .optional => "optional"
  | .nullable => "nullable"
  | .readonly => "readonly"

end Modifier

def Primitive.value : Primitive → Value
  | .null => .null
  | .bool value => .bool value
  | .number value => .number value
  | .string value => .string value

def Callback.value (callback : Callback) : Value :=
  .function callback.called callback.recovering

/-- A bound that the definition itself holds, or nothing in its place. -/
def countField (bounds : List SizeBound) (extent : Extent) : Value :=
  match bounds.find? (·.extent = extent) with
  | some bound => .object [("value", .number bound.size)]
  | none => .null

/-- How a class names its policy on unnamed properties. -/
def policyName : Rule.KeyPolicy → String
  | .strip => "strip"
  | .passthrough => "passthrough"
  | .strict => "strict"

/-- The schema for unnamed properties that stands for a policy. -/
def policySchema : Rule.KeyPolicy → Option Bare
  | .strip => none
  | .passthrough => some .unknown
  | .strict => some .never

namespace Schema

mutual

/-- The value that holds a schema, with each node in its layout. -/
def encode (layouts : Layouts) : Schema → Value
  | .bare kind => kind.node (layouts [])
  | .boolean coerce => node (layouts []) "Boolean" "boolean" [("coerce", .bool coerce)]
  | .string coerce checks =>
    node (layouts []) "String" "string" [("coerce", .bool coerce),
      ("checks", .array (checks.map (StringCheck.entry (layouts []))))]
  | .number coerce checks =>
    node (layouts []) "Number" "number" [("coerce", .bool coerce),
      ("checks", .array (checks.map (RangeCheck.entry .number (layouts []))))]
  | .bigint coerce checks =>
    node (layouts []) "BigInt" "bigint" [("coerce", .bool coerce),
      ("checks", .array (checks.map (RangeCheck.entry .bigint (layouts []))))]
  | .date coerce checks =>
    node (layouts []) "Date" "date" [("coerce", .bool coerce),
      ("checks", .array (checks.map (DateCheck.entry (layouts []))))]
  | .literal value =>
    match layouts [] with
    | .v3 => classNode "Literal" [("value", value)]
    | .v4 => kindNode "literal" [("values", .array [value])]
  | .enumeration members =>
    match layouts [] with
    | .v3 => classNode "Enum" [("values", .array (members.map .string))]
    | .v4 => kindNode "enum" [("entries", .object (members.map fun m => (m, .string m)))]
  | .modified modifier inner =>
    node (layouts []) modifier.name modifier.tag
      [("innerType", encode (layouts.below 0) inner)]
  | .default value inner =>
    match layouts [] with
    | .v3 =>
      classNode "Default" [("innerType", encode (layouts.below 0) inner),
        ("defaultValue", .thunk value.value)]
    | .v4 =>
      kindNode "default" [("innerType", encode (layouts.below 0) inner),
        ("defaultValue", value.value)]
  | .recovery getter inner =>
    node (layouts []) "Catch" "catch" [("innerType", encode (layouts.below 0) inner),
      ("catchValue", getter.value)]
  | .array bounds element =>
    match layouts [] with
    | .v3 =>
      classNode "Array" [("type", encode (layouts.below 0) element),
        ("minLength", countField bounds .least), ("maxLength", countField bounds .greatest),
        ("exactLength", countField bounds .exact)]
    | .v4 =>
      kindNode "array" [("element", encode (layouts.below 0) element),
        ("checks", .array (bounds.map (SizeBound.entry lengthNames .v4)))]
  | .set bounds element =>
    match layouts [] with
    | .v3 =>
      classNode "Set" [("valueType", encode (layouts.below 0) element),
        ("minSize", countField bounds .least), ("maxSize", countField bounds .greatest)]
    | .v4 =>
      kindNode "set" [("valueType", encode (layouts.below 0) element),
        ("checks", .array (bounds.map (SizeBound.entry setSizeNames .v4)))]
  | .object policy shape =>
    match layouts [] with
    | .v3 =>
      classNode "Object" [("shape", .thunk (.object (encodeShape layouts 1 shape))),
        ("unknownKeys", .string (policyName policy)), ("catchall", Bare.never.node (layouts [0]))]
    | .v4 =>
      kindNode "object" (("shape", .object (encodeShape layouts 1 shape))
        :: ((policySchema policy).map fun kind => ("catchall", kind.node (layouts [0]))).toList)
  | .openObject shape catchall =>
    match layouts [] with
    | .v3 =>
      classNode "Object" [("shape", .thunk (.object (encodeShape layouts 1 shape))),
        ("unknownKeys", .string "strip"), ("catchall", encode (layouts.below 0) catchall)]
    | .v4 =>
      kindNode "object" [("shape", .object (encodeShape layouts 1 shape)),
        ("catchall", encode (layouts.below 0) catchall)]
  | .record key value =>
    node (layouts []) "Record" "record" [("keyType", encode (layouts.below 0) key),
      ("valueType", encode (layouts.below 1) value)]
  | .map key value =>
    node (layouts []) "Map" "map" [("keyType", encode (layouts.below 0) key),
      ("valueType", encode (layouts.below 1) value)]
  | .tuple items =>
    node (layouts []) "Tuple" "tuple" [("items", .array (encodeAll layouts 1 items)),
      ("rest", .null)]
  | .openTuple items rest =>
    node (layouts []) "Tuple" "tuple" [("items", .array (encodeAll layouts 1 items)),
      ("rest", encode (layouts.below 0) rest)]
  | .union options =>
    node (layouts []) "Union" "union" [("options", .array (encodeAll layouts 1 options))]
  | .discriminatedUnion discriminator options =>
    node (layouts []) "DiscriminatedUnion" "union"
      [("discriminator", .string discriminator), ("options", .array (encodeAll layouts 1 options))]
  | .intersection left right =>
    node (layouts []) "Intersection" "intersection" [("left", encode (layouts.below 0) left),
      ("right", encode (layouts.below 1) right)]
  | .promise inner =>
    match layouts [] with
    | .v3 => classNode "Promise" [("type", encode (layouts.below 0) inner)]
    | .v4 => kindNode "promise" [("innerType", encode (layouts.below 0) inner)]
  | .lazy getter => node (layouts []) "Lazy" "lazy" [("getter", getter.value)]
  | .transform callback inner =>
    match layouts [] with
    | .v3 =>
      classNode "Effects" [("schema", encode (layouts.below 0) inner),
        ("effect", .object [("type", .string "transform"), ("transform", callback.value)])]
    | .v4 =>
      kindNode "pipe" [("in", encode (layouts.below 0) inner),
        ("out", kindNode "transform" [("transform", callback.value)])]
  | .pipe input output =>
    node (layouts []) "Pipeline" "pipe" [("in", encode (layouts.below 0) input),
      ("out", encode (layouts.below 1) output)]

def encodeAll (layouts : Layouts) (first : Nat) : List Schema → List Value
  | [] => []
  | s :: rest => encode (layouts.below first) s :: encodeAll layouts (first + 1) rest

def encodeShape (layouts : Layouts) (first : Nat) : List (String × Schema) → Fields
  | [] => []
  | (name, s) :: rest =>
    (name, encode (layouts.below first) s) :: encodeShape layouts (first + 1) rest

end

end Schema
end SchemaSource
