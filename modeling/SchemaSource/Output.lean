import SchemaSource.Host
import SchemaSource.Storage.Path
/-!
Writing generated text. A file that already holds the text is left alone, and the folder of a new
one is created if it is missing.
-/
namespace SchemaSource

inductive OutputResult where
  /-- The file now holds the text. -/
  | written (path : String) (bytes : Nat)
  /-- The file held the text before. -/
  | unchanged (path : String)
  /-- Nothing was written, as asked. -/
  | preview (path content : String)
  deriving DecidableEq, Repr

namespace OutputResult

def path : OutputResult → String
  | .written path _ | .unchanged path | .preview path _ => path

def changedFile : OutputResult → Bool
  | .written .. => true
  | _ => false

def bytes : OutputResult → Nat
  | .written _ bytes => bytes
  | _ => 0

end OutputResult

inductive OutputFault where
  | createFolder (path : String) (fault : StorageFault)
  | writeFile (path : String) (fault : StorageFault)
  deriving DecidableEq, Repr

def OutputFault.message : OutputFault → String
  | .createFolder path fault => "Failed to create directory " ++ path ++ ": " ++ fault.message
  | .writeFile path fault => "Failed to write file " ++ path ++ ": " ++ fault.message

namespace Output

variable {m : Type → Type} [Monad m] [Host m]

def prepareFolder (path : String) : ExceptT OutputFault m Unit := do
  match Path.parent? path with
  | none | some "" => return
  | some parent =>
    unless ← Host.present parent do
      match ← Host.createPath parent with
      | .ok _ => return
      | .error fault => throw (.createFolder parent fault)

def holds (path content : String) : m Bool := do
  match ← Host.read path with
  | .ok existing => return existing == content
  | .error _ => return false

/-- Write a text to a path, or only tell what would be written. -/
def write (dryRun : Bool) (path content : String) : ExceptT OutputFault m OutputResult := do
  if dryRun then return .preview path content
  else if ← holds path content then return .unchanged path
  else
    prepareFolder path
    match ← Host.write path content with
    | .ok _ => return .written path content.utf8ByteSize
    | .error fault => throw (.writeFile path fault)

end Output
end SchemaSource
