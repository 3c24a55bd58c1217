import Signalbox.Files.Disk
import Signalbox.Files.Path

/-!
# File trees

A `FileTree` is a disk that is a value: the files and directories below one directory, by the names on the
way to them. `FileTree.disk` is the disk of a state that holds one.
-/

namespace Signalbox

/-- What stands under a path. -/
inductive FileNode where
  | file (text : String)
  | directory
  deriving DecidableEq, Repr

/-- The files and directories below one directory, by the names on the way to them. -/
structure FileTree where
  nodes : List (List String × FileNode)
  deriving DecidableEq, Repr, Inhabited

namespace FileTree

/-- The tree without files. -/
def empty : FileTree := ⟨[]⟩

/-- What stands at the end of a way; the way without names leads to the tree's own directory. -/
def node? (t : FileTree) (names : List String) : Option FileNode :=
  if names.isEmpty then some .directory else t.nodes.lookup names

/-- The tree with something at the end of a way. -/
def put (t : FileTree) (names : List String) (node : FileNode) : FileTree :=
  ⟨(names, node) :: t.nodes.filter (·.1 ≠ names)⟩

/-- The tree with nothing at the end of a way. -/
def remove (t : FileTree) (names : List String) : FileTree :=
  ⟨t.nodes.filter (·.1 ≠ names)⟩

/-- Goes a way from a directory: all but its last name must lead to directories. The answer is the way from
the tree's own directory, where `..` leads back. -/
def walk (t : FileTree) (here : List String) : List String → Except DiskError (List String)
  | [] => .ok here
  | [name] => .ok (if name = ".." then here.dropLast else here ++ [name])
  | name :: next :: rest =>
    let there := if name = ".." then here.dropLast else here ++ [name]
    match t.node? there with
    | some .directory => walk t there (next :: rest)
    | some (.file _) => .error .notDirectory
    | none => .error .notFound

/-- The way that a path leads to. The empty path leads nowhere. -/
def resolve (t : FileTree) (path : String) : Except DiskError (List String) :=
  if path.isEmpty then .error .notFound else t.walk [] (Path.names path)

/-- What stands under a path. -/
def find (t : FileTree) (path : String) : Except DiskError FileNode := do
  let names ← t.resolve path
  match t.node? names with
  | none => .error .notFound
  | some .directory => return .directory
  | some (.file text) =>
    if Path.asksForDirectory path then .error .notDirectory else return .file text

/-- Holds of the paths of files and directories. -/
def contains (t : FileTree) (path : String) : Bool :=
  (t.find path).isOk

/-- The text of a file. -/
def read (t : FileTree) (path : String) : Except DiskError String := do
  match ← t.find path with
  | .file text => return text
  | .directory => .error .isDirectory

/-- The tree with a text in a file. -/
def write (t : FileTree) (path text : String) : Except DiskError FileTree := do
  let names ← t.resolve path
  match t.node? names with
  | some .directory => .error .isDirectory
  | some (.file _) =>
    if Path.asksForDirectory path then .error .notDirectory else return t.put names (.file text)
  | none =>
    if Path.asksForDirectory path then .error .isDirectory else return t.put names (.file text)

/-- The tree with a file under another path. -/
def rename (t : FileTree) (source target : String) : Except DiskError FileTree := do
  let from_ ← t.resolve source
  let text ← t.read source
  let to_ ← t.resolve target
  match t.node? to_ with
  | some .directory => .error .isDirectory
  | _ =>
    if Path.asksForDirectory target then .error .notDirectory
    else return (t.remove from_).put to_ (.file text)

/-- The tree with a directory on every step of a way. -/
def createAlong (t : FileTree) (here : List String) : List String → Except DiskError FileTree
  | [] => .ok t
  | name :: rest =>
    let there := if name = ".." then here.dropLast else here ++ [name]
    match t.node? there with
    | some .directory => createAlong t there rest
    | some (.file _) => .error (if rest.isEmpty then .alreadyExists else .notDirectory)
    | none => createAlong (t.put there .directory) there rest

/-- The tree with a directory and those that it lies in. -/
def createDirectories (t : FileTree) (path : String) : Except DiskError FileTree :=
  t.createAlong [] (Path.names path)

/-- The files and their texts. -/
def files (t : FileTree) : List (String × String) :=
  t.nodes.filterMap fun (names, node) =>
    match node with
    | .file text => some (String.intercalate "/" names, text)
    | .directory => none

/-- Puts the outcome of a change in place of the tree, if it has one. -/
def change (outcome : Except DiskError FileTree) : StateM FileTree (Except DiskError Unit) := fun t =>
  match outcome with
  | .ok changed => (.ok (), changed)
  | .error e => (.error e, t)

/-- The disk of a state that is a file tree. -/
def disk : Disk (StateM FileTree) where
  exists? path := fun t => (t.contains path, t)
  read path := fun t => (t.read path, t)
  write path text := fun t => change (t.write path text) t
  rename source target := fun t => change (t.rename source target) t
  createDirectories path := fun t => change (t.createDirectories path) t

end FileTree

end Signalbox
