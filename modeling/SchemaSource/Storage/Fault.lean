/-!
Why a file cannot be read or written, in the words of the system.
-/
namespace SchemaSource

inductive StorageFault where
  | notFound
  | isDirectory
  | notDirectory
  | alreadyExists
  /-- The path, or a name in it, is longer than the system takes. -/
  | nameTooLong
  /-- The path holds the character that ends a path for the system. -/
  | nulInName
  /-- The bytes of the file are no text. -/
  | invalidText
  | other (message : String)
  deriving DecidableEq, Repr

def StorageFault.message : StorageFault → String
  | .notFound => "No such file or directory (os error 2)"
  | .isDirectory => "Is a directory (os error 21)"
  | .notDirectory => "Not a directory (os error 20)"
  | .alreadyExists => "File exists (os error 17)"
  | .nameTooLong => "File name too long (os error 36)"
  | .nulInName => "file name contained an unexpected NUL byte"
  | .invalidText => "stream did not contain valid UTF-8"
  | .other message => message

end SchemaSource
