import RunnerFleet.Text.Blank
import RunnerFleet.Text.Utf8

/-!
# Paths

A path is a text, and the system knows it as octets.  It starts at the working
directory or, with a slash in front, at the root, and leads to a location.  Why a
path leads nowhere, or why nothing can be done with what is there, is told by a
problem, and a failed operation is reported with the paths as they were given.
-/

namespace RunnerFleet

/-! ## Problems -/

/-- Why a file operation fails.  A path without octets, or with the null character,
is not even handed to the system, which may refuse any other path for a reason of its
own or fail while a file is written. -/
inductive FileProblem where
  | noOctets (fault : Text.Utf8.EncodingFault)
  | nullCharacter
  | notFound
  | busy
  | notDirectory
  | isDirectory
  | nameTooLong
  | refused (number : Nat) (words : String)
  | unwritten (number : Nat) (words : String)
  deriving DecidableEq, Repr

namespace FileProblem

/-- The number that the system gives to a problem of its own. -/
def number? : FileProblem → Option Nat
  | .noOctets _ | .nullCharacter => none
  | .notFound => some 2
  | .busy => some 16
  | .notDirectory => some 20
  | .isDirectory => some 21
  | .nameTooLong => some 36
  | .refused number _ | .unwritten number _ => some number

/-- The words for a problem. -/
def words : FileProblem → String
  | .noOctets fault => fault.message
  | .nullCharacter => "embedded null byte"
  | .notFound => "No such file or directory"
  | .busy => "Device or resource busy"
  | .notDirectory => "Not a directory"
  | .isDirectory => "Is a directory"
  | .nameTooLong => "File name too long"
  | .refused _ words | .unwritten _ words => words

/-- Whether the system tells the path along with a problem. -/
def tellsPath : FileProblem → Bool
  | .unwritten _ _ => false
  | _ => true

end FileProblem

/-- A failed file operation: the problem, the path, and the destination if there
is one. -/
structure FileFault where
  problem : FileProblem
  path : Text
  destination : Option Text := none
  deriving DecidableEq, Repr

/-- Whether the system reported a failed file operation. -/
def FileFault.isOfSystem (fault : FileFault) : Bool :=
  fault.problem.number?.isSome

/-- The paths of a failed file operation, as its report shows them. -/
def FileFault.pathsText (fault : FileFault) : String :=
  ": " ++ Text.quoted fault.path
    ++ match fault.destination with
      | some destination => " -> " ++ Text.quoted destination
      | none => ""

/-- The report of a failed file operation. -/
def FileFault.message (fault : FileFault) : String :=
  match fault.problem.number? with
  | none => fault.problem.words
  | some number =>
    "[Errno " ++ toString number ++ "] " ++ fault.problem.words
      ++ if fault.problem.tellsPath then fault.pathsText else ""

/-! ## Locations -/

/-- A place: the names on the way to it from the working directory, or from the
root, which is then the first of them, each as its octets.  The way to a place
outside the working directory starts with steps upwards. -/
abbrev Location := List (List UInt8)

namespace Location

/-- The octet that separates names, which is the slash. -/
def slash : UInt8 := 0x2F

/-- The name of the root. -/
def rootName : List UInt8 := [slash]

/-- The location of the root. -/
def root : Location := [rootName]

/-- The name of a folder in itself, which is a dot. -/
def here : List UInt8 := [0x2E]

/-- The step upwards, which is two dots. -/
def up : List UInt8 := [0x2E, 0x2E]

/-- Whether a location is that of the working directory or of a folder above
it. -/
def isAbove (location : Location) : Bool :=
  location.all (· == up)

/-- The folder that a place lies in; the root lies in itself. -/
def parent (location : Location) : Location :=
  if location = root then root
  else if location.isAbove then location ++ [up]
  else location.dropLast

/-- The octets of the path to a place. -/
def pathOctets (location : Location) : List UInt8 :=
  match location with
  | [] => []
  | first :: names =>
    if first = rootName then slash :: [slash].intercalate names
    else [slash].intercalate location

/-- The path to a place. -/
def path (location : Location) : Text :=
  Text.Utf8.nameOf location.pathOctets

end Location

/-! ## Paths -/

/-- A path as the system knows it. -/
structure Path where
  octets : List UInt8
  deriving DecidableEq, Repr

namespace Path

/-- The path that a text spells. -/
def ofText (text : Text) : Except FileProblem Path :=
  match Text.Utf8.nameOctets text with
  | .error fault => .error (.noOctets fault)
  | .ok octets => if octets.contains 0 then .error .nullCharacter else .ok ⟨octets⟩

/-- The named components of a path. -/
def components (path : Path) : List (List UInt8) :=
  (Text.stretches Location.slash path.octets).filter (!·.isEmpty)

/-- Whether a path starts at the root. -/
def isAbsolute (path : Path) : Bool :=
  path.octets.head? == some Location.slash

/-- Whether a path ends with a slash, and so names a folder. -/
def namesFolder (path : Path) : Bool :=
  path.octets.getLast? == some Location.slash

/-- The most octets that a component of a path may have. -/
def nameLimit : Nat := 255

/-- The most octets that a path may have. -/
def limit : Nat := 4095

/-- The location that a path leads to if every step upwards is taken as a name. -/
def plainLocation (path : Path) : Location :=
  if path.isAbsolute then Location.root ++ path.components else path.components

end Path

end RunnerFleet
