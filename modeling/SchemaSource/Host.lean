import SchemaSource.Storage.Fault
/-!
What a command may do outside itself: look at files, write them, and print lines.
-/
namespace SchemaSource

class Host (m : Type → Type) where
  /-- Something stands at a path. -/
  present : String → m Bool
  read : String → m (Except StorageFault String)
  write : String → String → m (Except StorageFault Unit)
  /-- Create a folder and those that are missing on the way to it. -/
  createPath : String → m (Except StorageFault Unit)
  say : String → m Unit

/-- Work that may fail reaches the same host. -/
instance {ε : Type} {m : Type → Type} [Monad m] [Host m] : Host (ExceptT ε m) where
  present path := ExceptT.lift (Host.present path)
  read path := ExceptT.lift (Host.read path)
  write path content := ExceptT.lift (Host.write path content)
  createPath path := ExceptT.lift (Host.createPath path)
  say line := ExceptT.lift (Host.say line)

end SchemaSource
