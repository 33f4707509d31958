import SchemaSource.Rule.Choice
import SchemaSource.Rule.Container
import SchemaSource.Rule.Effect
import SchemaSource.Rule.Modifier
import SchemaSource.Rule.Object
import SchemaSource.Rule.Range
/-!
The kinds of schema that have a rule of their own.
-/
namespace SchemaSource

inductive Kind where
  | string | number | boolean | bigint | date
  | undefined | null | void | any | unknown | never | nan | symbol
  | literal | enumeration | nativeEnum
  | optional | nullable | nullish | default | recovery
  | array | object | record | map | set | tuple
  | union | discriminatedUnion | intersection
  | lazy | promise | function
  | effects | pipe | transform | pipeline
  | branded | readonly
  deriving DecidableEq, Repr

namespace Kind

def tag : Kind → String
  | .string => "string"
  | .number => "number"
  | .boolean => "boolean"
  | .bigint => "bigint"
  | .date => "date"
  | .undefined => "undefined"
  | .null => "null"
  | .void => "void"
  | .any => "any"
  | .unknown => "unknown"
  | .never => "never"
  | .nan => "nan"
  | .symbol => "symbol"
  | .literal => "literal"
  | .enumeration => "enum"
  | .nativeEnum => "nativeenum"
  | .optional => "optional"
  | .nullable => "nullable"
  | .nullish => "nullish"
  | .default => "default"
  | .recovery => "catch"
  | .array => "array"
  | .object => "object"
  | .record => "record"
  | .map => "map"
  | .set => "set"
  | .tuple => "tuple"
  | .union => "union"
  | .discriminatedUnion => "discriminatedunion"
  | .intersection => "intersection"
  | .lazy => "lazy"
  | .promise => "promise"
  | .function => "function"
  | .effects => "effects"
  | .pipe => "pipe"
  | .transform => "transform"
  | .pipeline => "pipeline"
  | .branded => "branded"
  | .readonly => "readonly"

def all : List Kind :=
  [.string, .number, .boolean, .bigint, .date, .undefined, .null, .void, .any, .unknown, .never,
   .nan, .symbol, .literal, .enumeration, .nativeEnum, .optional, .nullable, .nullish, .default,
   .recovery, .array, .object, .record, .map, .set, .tuple, .union, .discriminatedUnion,
   .intersection, .lazy, .promise, .function, .effects, .pipe, .transform, .pipeline, .branded,
   .readonly]

/-- The kind of a tag. Newer kinds may have none here. -/
def ofTag? (tag : String) : Option Kind := all.find? (·.tag == tag)

def rule : Kind → Rule
  | .string => Rule.string
  | .number => Rule.number
  | .boolean => Rule.boolean
  | .bigint => Rule.bigint
  | .date => Rule.date
  | .undefined => Rule.bare "undefined"
  | .null => Rule.bare "null"
  | .void => Rule.bare "void"
  | .any => Rule.bare "any"
  | .unknown => Rule.bare "unknown"
  | .never => Rule.bare "never"
  | .nan => Rule.bare "nan"
  | .symbol => Rule.bare "symbol"
  | .literal => Rule.literal
  | .enumeration => Rule.enumeration
  | .nativeEnum => Rule.nativeEnum
  | .optional => Rule.modifier "optional"
  | .nullable => Rule.modifier "nullable"
  | .nullish => Rule.modifier "nullish"
  | .default => Rule.fallback .default
  | .recovery => Rule.fallback .recovery
  | .array => Rule.array
  | .object => Rule.object
  | .record => Rule.keyed "record"
  | .map => Rule.keyed "map"
  | .set => Rule.set
  | .tuple => Rule.tuple
  | .union => Rule.union
  | .discriminatedUnion => Rule.discriminatedUnion
  | .intersection => Rule.intersection
  | .lazy => Rule.lazy
  | .promise => Rule.promise
  | .function => Rule.function
  | .effects => Rule.effects
  | .pipe => Rule.pipe
  | .transform => Rule.transform
  | .pipeline => Rule.pipeline
  | .branded => Rule.branded
  | .readonly => Rule.readonly

end Kind
end SchemaSource
