import SchemaSource.CommandLine
import Std.Time.DateTime.Timestamp
/-!
The program: carries out the command that its arguments ask for, on the files of the system.
-/
namespace SchemaSource

/-- The fault that the system reports by number, or in words of its own. -/
def StorageFault.ofError : IO.Error → StorageFault
  | .noFileOrDirectory .. => .notFound
  | .alreadyExists .. => .alreadyExists
  | .inappropriateType _ 20 _ => .notDirectory
  | .inappropriateType _ 21 _ => .isDirectory
  | error => .other (toString error)

def attempt {α : Type} (work : IO α) : IO (Except StorageFault α) :=
  try return .ok (← work) catch error => return .error (.ofError error)

instance : Host IO where
  present path := do
    return (← attempt (IO.FS.Handle.mk path .read)).isOk
  read path := do
    match ← attempt (IO.FS.readBinFile path) with
    | .error fault => return .error fault
    | .ok bytes =>
      match String.fromUTF8? bytes with
      | some text => return .ok text
      | none => return .error .invalidText
  write path content := attempt (IO.FS.writeFile path content)
  createPath path := attempt (IO.FS.createDirAll path)
  say := IO.println

def Instant.now : IO Instant := do
  return .ofMillis (← Std.Time.Timestamp.now).toMillisecondsSinceUnixEpoch.val

/-- What a user is told whose arguments ask for no command. -/
def usage : String :=
  "Usage: zod-codepen [--verbose] <generate|init|check> [arguments]"

end SchemaSource

open SchemaSource in
def main (words : List String) : IO UInt32 := do
  match CommandLine.command? words with
  | none =>
    IO.eprintln usage
    return 2
  | some command =>
    match ← (command.run (← Instant.now)).run with
    | .ok _ => return 0
    | .error error =>
      IO.eprintln ("Error: " ++ error.message)
      return error.exitCode.toUInt32
