import SchemaSource.Module
/-!
Headers of generated modules. A header tells when a module was made, so two modules are compared
without theirs.
-/
namespace SchemaSource.Module

def datedHeader (generator : String) (time : Instant) : String :=
  "\n".intercalate
    ["/**",
     " * AUTO-GENERATED FILE - DO NOT EDIT",
     " *",
     " * Generated by " ++ generator ++ " at " ++ time.isoText,
     " */"]

/-- What is left of a text from the first place on where a phrase stands. -/
def fromPhrase? (phrase : List Char) : List Char → Option (List Char)
  | [] => if phrase.isEmpty then some [] else none
  | c :: rest => if phrase.isPrefixOf (c :: rest) then some (c :: rest) else fromPhrase? phrase rest

/-- A module without its header. A text without the import is left as it is. -/
def withoutHeader (content : String) : String :=
  match fromPhrase? importStatement.toList content.toList with
  | some body => String.ofList body
  | none => content

end SchemaSource.Module
