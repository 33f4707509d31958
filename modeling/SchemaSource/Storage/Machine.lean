import SchemaSource.Host
import SchemaSource.Storage.Tree
/-!
A host whose files are a value and whose lines are kept, so that what a command does can be seen.
-/
namespace SchemaSource

structure Machine where
  files : Tree
  /-- The lines printed so far. -/
  printed : List String

namespace Machine

/-- Put changed files in place; a fault changes nothing. -/
def settle (change : Tree → Except StorageFault Tree) :
    StateM Machine (Except StorageFault Unit) := fun machine =>
  match change machine.files with
  | .ok files => (.ok (), { machine with files })
  | .error fault => (.error fault, machine)

instance : Host (StateM Machine) where
  present path := fun machine => (machine.files.contains path, machine)
  read path := fun machine => (machine.files.read path, machine)
  write path content := settle fun files => files.write path (.text content)
  createPath path := fun machine =>
    let (files, result) := machine.files.createPath path
    (result, { machine with files })
  say line := fun machine => ((), { machine with printed := machine.printed ++ [line] })

end Machine
end SchemaSource
