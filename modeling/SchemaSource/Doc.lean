import SchemaSource.Options
import SchemaSource.Text.Quoted
/-!
Documents: text with blocks of properties whose layout is still open. Content is decided before
layout, and printing decides nothing but layout.
-/
namespace SchemaSource

/-- A letter, an underscore or a dollar sign. -/
def isNameStart (c : Char) : Bool := c.isAlpha || c == '_' || c == '$'

def isBareName (name : String) : Bool :=
  match name.toList with
  | [] => false
  | c :: rest => isNameStart c && rest.all fun c => isNameStart c || c.isDigit

/-- A property name as an object literal spells it. -/
def propertyName (name : String) : String :=
  if isBareName name then name else Text.quote name

/-- A text in which some blocks are not laid out yet. -/
inductive Doc where
  | text (content : String)
  /-- Properties in braces. -/
  | block (entries : List (String × Doc))
  | concat (parts : List Doc)

namespace Doc

def indentation (options : Options) (level : Nat) : String :=
  String.join (List.replicate level options.indent)

/-- Properties in braces. A laid out block gives each property a line one level deeper and ends its
last line with a comma too; a flat one stays on its line. -/
def braces (options : Options) (level : Nat) (entries : List String) : String :=
  if entries.isEmpty then "\x7b\x7d"
  else if options.format then
    let margin := indentation options (level + 1)
    "\x7b\n" ++ ",\n".intercalate (entries.map (margin ++ ·)) ++ ",\n"
      ++ indentation options level ++ "\x7d"
  else "\x7b " ++ ", ".intercalate entries ++ " \x7d"

mutual

def print (options : Options) (level : Nat) : Doc → String
  | .text s => s
  | .block entries => braces options level (printEntries options (level + 1) entries)
  | .concat parts => String.join (printAll options level parts)

def printAll (options : Options) (level : Nat) : List Doc → List String
  | [] => []
  | part :: rest => print options level part :: printAll options level rest

def printEntries (options : Options) (level : Nat) : List (String × Doc) → List String
  | [] => []
  | (name, doc) :: rest =>
    (propertyName name ++ ": " ++ print options level doc) :: printEntries options level rest

end

end Doc
end SchemaSource
