import SchemaSource.Config
/-!
A configuration file to start from. It gives every setting its default.
-/
namespace SchemaSource.Config

def templateLines : List String :=
  ["# zod-codepen configuration file",
   "",
   "[output]",
   "# Path of the generated TypeScript module",
   "file = \"./generated/schemas.ts\"",
   "",
   "# Emit `export type X = z.infer<typeof X>;` for every exported schema",
   "include_types = true",
   "",
   "# Custom header replacing the \"AUTO-GENERATED FILE\" banner",
   "# header = \"// generated\"",
   "",
   "[filter]",
   "# Skip exports whose name starts with `$` or ends with `Type`",
   "default_rules = true",
   "",
   "# Only export names matching one of these glob patterns (empty = all)",
   "include = []",
   "",
   "# Skip names matching any of these glob patterns",
   "exclude = []",
   "",
   "[serialize]",
   "# Zod major version of the snapshot (\"v3\" or \"v4\")",
   "zod_version = \"v4\"",
   "",
   "# Indentation unit",
   "indent = \"  \"",
   "",
   "# One object property per line",
   "format = true",
   "",
   "# Recover .positive(), .nonnegative(), .safe() from raw bounds",
   "semantic_methods = true",
   "",
   "# Render boundary constants as 2**31 - 1, Number.MAX_SAFE_INTEGER, ...",
   "scientific_notation = true"]

def template : String := String.join (templateLines.map (· ++ "\n"))

end SchemaSource.Config
