import RunnerFleet.Path
import RunnerFleet.Table

/-!
# Files and folders

The files and folders that the service can reach, with the three operations it
needs: reading a file, writing one, and moving one over another.  An operation
that fails changes nothing.

The folders above the working directory are there, and so are the root, the
standard folders in it, and the null device, which is empty; nothing else is known
to be in any of them.
-/

namespace RunnerFleet

/-- The step of a publication at which the system fails by itself: it does not open the
file aside, it fails while that file is written, which leaves some octets there, or it
does not move the file. -/
inductive PublishStep where
  | opening
  | writing (left : List UInt8)
  | moving
  deriving DecidableEq, Repr

/-- A failure of the system during a publication, with its number and its words. -/
structure PublishFault where
  step : PublishStep
  number : Nat
  words : String
  deriving DecidableEq, Repr

/-- What stands at a path: a file with its octets, or a folder. -/
inductive Node where
  | file (content : List UInt8)
  | folder
  deriving DecidableEq, Repr

namespace Location

/-- The names of the standard folders in the root. -/
def standardFolders : List (List UInt8) :=
  ["bin", "boot", "dev", "etc", "home", "lib", "media", "mnt", "opt", "proc", "root", "run",
    "sbin", "srv", "sys", "tmp", "usr", "var"].map Text.Utf8.encode

/-- The location of the null device. -/
def nullDevice : Location :=
  [rootName, Text.Utf8.encode "dev", Text.Utf8.encode "null"]

/-- What is known to stand at a location in every directory. -/
def standardNode? (location : Location) : Option Node :=
  if location = root || location.isAbove then
    some .folder
  else if location = nullDevice then
    some (.file [])
  else
    match location with
    | [first, name] =>
      if first = rootName && standardFolders.contains name then some .folder else none
    | _ => none

end Location

/-- The files and folders that can be reached. -/
structure Directory where
  nodes : List (Location × Node)
  deriving DecidableEq, Repr

namespace Directory

/-- What stands at a location. -/
def node? (directory : Directory) (location : Location) : Option Node :=
  (directory.nodes.lookup location).or location.standardNode?

/-- Put a node at a location. -/
def put (directory : Directory) (location : Location) (node : Node) : Directory :=
  ⟨Table.put location node directory.nodes⟩

/-- Remove what stands at a location. -/
def remove (directory : Directory) (location : Location) : Directory :=
  ⟨Table.drop location directory.nodes⟩

/-- Walk along components from a folder.  Everything but the last component must
be a folder. -/
def walk (directory : Directory) :
    Location → List (List UInt8) → Except FileProblem Location
  | current, [] => .ok current
  | current, name :: rest =>
    if name = Location.here then
      walk directory current rest
    else if name = Location.up then
      walk directory current.parent rest
    else if Path.nameLimit < name.length then
      .error .nameTooLong
    else
      let next := current ++ [name]
      if rest.isEmpty then
        .ok next
      else
        match directory.node? next with
        | none => .error .notFound
        | some (.file _) => .error .notDirectory
        | some .folder => walk directory next rest

/-- The location that a path leads to, whether or not something stands there. -/
def locate (directory : Directory) (path : Path) : Except FileProblem Location :=
  if path.octets.isEmpty then .error .notFound
  else if Path.limit < path.octets.length then .error .nameTooLong
  else directory.walk (if path.isAbsolute then Location.root else []) path.components

/-- The octets of the file at a path. -/
def fileAt (directory : Directory) (path : Path) : Except FileProblem (List UInt8) := do
  let location ← directory.locate path
  match directory.node? location with
  | none => throw .notFound
  | some .folder => throw .isDirectory
  | some (.file content) => if path.namesFolder then throw .notDirectory else pure content

/-- The octets of the file at the path that a text spells. -/
def readOctets (directory : Directory) (path : Text) : Except FileFault (List UInt8) :=
  (Path.ofText path >>= directory.fileAt).mapError fun problem => { problem, path }

/-- Where a file may be written: not in place of a folder, and not to a path that
names one. -/
def writable (directory : Directory) (path : Path) : Except FileProblem Location := do
  let location ← directory.locate path
  if path.namesFolder || directory.node? location = some .folder then
    throw .isDirectory
  else
    pure location

/-- Write octets to the file at the path that a text spells, in place of what the file
held. -/
def writeOctets
    (directory : Directory)
    (path : Text)
    (content : List UInt8) : Except FileFault Directory :=
  match Path.ofText path >>= directory.writable with
  | .error problem => .error { problem, path }
  | .ok location => .ok (directory.put location (.file content))

/-- Where a file may be moved to: not onto a folder, and not to a path that
names a folder. -/
def destination (directory : Directory) (path : Path) : Except FileProblem Location := do
  let location ← directory.locate path
  match path.components.getLast? with
  | none => throw .busy
  | some name =>
    if name = Location.here || name = Location.up then throw .busy
    else if path.namesFolder then throw .notDirectory
    else if directory.node? location = some .folder then throw .isDirectory
    else pure location

/-- Move a file from one path over another. -/
def moved (directory : Directory) (source target : Path) : Except FileProblem Directory := do
  let origin ← directory.locate source
  match directory.node? origin with
  | none => throw .notFound
  | some node =>
    let location ← directory.destination target
    pure ((directory.remove origin).put location node)

/-- Move a file from the path that one text spells over the path that another one
does. -/
def replace
    (directory : Directory)
    (source target : Text) : Except FileFault Directory :=
  let outcome : Except FileProblem Directory := do
    let origin ← Path.ofText source
    let destination ← Path.ofText target
    directory.moved origin destination
  outcome.mapError fun problem => ⟨problem, source, some target⟩

/-- Put a folder at a location and at every location on the way to it. -/
def putFolders (directory : Directory) (location : Location) : Directory :=
  (List.range location.length).foldl
    (fun directory count => directory.put (location.take (count + 1)) .folder) directory

/-- The directory that holds files and folders at the given locations, and the
folders they lie in. -/
def ofContents
    (files : List (Location × List UInt8))
    (folders : List Location) : Directory :=
  files.foldl
    (fun directory (location, content) =>
      (directory.putFolders location.dropLast).put location (.file content))
    (folders.foldl putFolders ⟨[]⟩)

/-- The files of a directory that another one does not hold in the same way. -/
def changesSince
    (directory before : Directory) : List (Location × List UInt8) :=
  directory.nodes.filterMap fun (location, node) =>
    match node with
    | .folder => none
    | .file content =>
      if before.node? location = some node then none
      else some (location, content)

end Directory

end RunnerFleet
