import SchemaSource.Storage.Fault
import SchemaSource.Storage.Path
/-!
Files in folders, and what becomes of them when they are read and written by path. A change that
fails leaves every file as it was.
-/
namespace SchemaSource

/-- What a file holds: a text, or bytes that are none. -/
inductive Content where
  | text (value : String)
  | bytes (value : List UInt8)
  deriving DecidableEq

inductive Tree where
  | file (content : Content)
  | folder (entries : List (String × Tree))

namespace Tree

abbrev Entries := List (String × Tree)

def empty : Tree := .folder []

def isFolder : Tree → Bool
  | .folder _ => true
  | .file _ => false

def child? : Tree → String → Option Tree
  | .folder entries, name => (entries.find? (·.1 == name)).map (·.2)
  | .file _, _ => none

def at? : Tree → List String → Option Tree
  | tree, [] => some tree
  | tree, name :: rest =>
    match tree.child? name with
    | some tree => at? tree rest
    | none => none

def changeFolder (change : Entries → Entries) : List String → Tree → Tree
  | _, .file content => .file content
  | [], .folder entries => .folder (change entries)
  | name :: rest, .folder entries =>
    .folder (entries.map fun entry =>
      if entry.1 = name then (name, changeFolder change rest entry.2) else entry)

/-- Put something under a name, in place of what is there. -/
def setEntry (name : String) (tree : Tree) : Entries → Entries
  | [] => [(name, tree)]
  | entry :: rest =>
    if entry.1 = name then (name, tree) :: rest else entry :: setEntry name tree rest

/-- Where a path leads: to a name in a folder, or to the folder itself. -/
structure Place where
  folder : List String
  name : Option String
  /-- The path ends in a slash, which only a folder may have. -/
  asFolder : Bool

/-- The folders passed through on a way down, the last one first. -/
abbrev Trail := List (String × Tree)

namespace Trail

def last (root : Tree) (trail : Trail) : Tree := (trail.head?.map (·.2)).getD root

def names (trail : Trail) : List String := (trail.map (·.1)).reverse

end Trail

/-- The trail that some pieces of a path go on from another. Nothing lies above the root. -/
def walk (root : Tree) (trail : Trail) : List String → Except StorageFault Trail
  | [] => .ok trail
  | piece :: rest =>
    if piece = "" ∨ piece = "." then walk root trail rest
    else if piece = ".." then walk root trail.tail rest
    else if Path.maxPiece < piece.utf8ByteSize then .error .nameTooLong
    else match (trail.last root).child? piece with
      | some (.folder entries) => walk root ((piece, .folder entries) :: trail) rest
      | some (.file _) => .error .notDirectory
      | none => .error .notFound

/-- The place to which a path leads. All but its last piece must exist. -/
def place (root : Tree) (path : String) : Except StorageFault Place :=
  let reversed := (Path.pieces path).reverse
  let asFolder := reversed.head? == some ""
  if path.isEmpty then .error .notFound
  else if path.toList.contains '\x00' then .error .nulInName
  else if Path.maxSize < path.utf8ByteSize then .error .nameTooLong
  else match reversed.dropWhile String.isEmpty with
    | [] => .ok ⟨[], none, asFolder⟩
    | last :: before => do
      let trail ← walk root [] before.reverse
      if last = "." then return ⟨trail.names, none, asFolder⟩
      else if last = ".." then return ⟨Trail.names trail.tail, none, asFolder⟩
      else return ⟨trail.names, some last, asFolder⟩

def atPlace (root : Tree) (place : Place) : Except StorageFault (Option Tree) :=
  if place.name.any fun name => Path.maxPiece < name.utf8ByteSize then .error .nameTooLong
  else .ok (root.at? (place.folder ++ place.name.toList))

def find (root : Tree) (path : String) : Except StorageFault Tree := do
  let place ← root.place path
  match ← root.atPlace place with
  | none => .error .notFound
  | some tree => if place.asFolder && !tree.isFolder then .error .notDirectory else .ok tree

def contains (root : Tree) (path : String) : Bool := (root.find path).isOk

def read (root : Tree) (path : String) : Except StorageFault String := do
  match ← root.find path with
  | .folder _ => .error .isDirectory
  | .file (.text value) => .ok value
  | .file (.bytes _) => .error .invalidText

/-- Write a file, new or in place of an old one, into a folder that exists. -/
def write (root : Tree) (path : String) (content : Content) : Except StorageFault Tree := do
  let place ← root.place path
  match place.name, place.asFolder with
  | none, _ | _, true => .error .isDirectory
  | some name, false =>
    match ← root.atPlace place with
    | some (.folder _) => .error .isDirectory
    | _ => .ok (changeFolder (setEntry name (.file content)) place.folder root)

/-- Create a folder in one that exists. -/
def createFolder (root : Tree) (path : String) : Except StorageFault Tree := do
  let place ← root.place path
  match place.name, ← root.atPlace place with
  | some name, none => .ok (changeFolder (setEntry name empty) place.folder root)
  | _, _ => .error .alreadyExists

def isFolderAt (root : Tree) (path : String) : Bool :=
  match root.find path with
  | .ok tree => tree.isFolder
  | .error _ => false

/-- Create a folder and those that are missing on the way to it, given the pieces of its path with
the last one first. A folder that is there already is no fault. What was created before a fault
stays. -/
def createFolders (root : Tree) (pieces : List String) : Tree × Except StorageFault Unit :=
  let path := Path.ofReversed pieces
  let settle (root : Tree) (fault : StorageFault) : Tree × Except StorageFault Unit :=
    (root, if root.isFolderAt path then .ok () else .error fault)
  if path.isEmpty then (root, .ok ())
  else match root.createFolder path with
    | .ok root => (root, .ok ())
    | .error .notFound =>
      match _ : Path.parentPieces? pieces with
      | none => settle root .notFound
      | some parent =>
        match createFolders root parent with
        | (root, .error fault) => (root, .error fault)
        | (root, .ok _) =>
          match root.createFolder path with
          | .ok root => (root, .ok ())
          | .error fault => settle root fault
    | .error fault => settle root fault
termination_by pieces.length
decreasing_by exact Path.length_parentPieces?_lt ‹_›

def createPath (root : Tree) (path : String) : Tree × Except StorageFault Unit :=
  createFolders root (Path.pieces path).reverse

def remove (root : Tree) (path : String) : Except StorageFault Tree := do
  let place ← root.place path
  match place.name, ← root.atPlace place with
  | none, _ | _, some (.folder _) => .error .isDirectory
  | _, none => .error .notFound
  | some name, some (.file _) =>
    if place.asFolder then .error .notDirectory
    else .ok (changeFolder (List.filter (·.1 != name)) place.folder root)

end Tree
end SchemaSource
