import SampleTypes.Files.Path
import SampleTypes.Json.Spelling
import SampleTypes.Text.Utf8
/-!
# A tree of files

The files and directories that a run may come upon, each with the place at which it stands. A path is
walked component by component: what stands before a component has to be a directory, and `..` leads to
the directory above. A place is counted from the current directory, upwards by `..`, or from the root of
the absolute paths. What is not in the tree does not exist.
-/

set_option autoImplicit false

namespace SampleTypes

/-- What stands at a place of a tree. -/
inductive FileEntry where
  | directory
  | file (bytes : List UInt8)
deriving DecidableEq, Repr

/-- Where an entry stands: the names on the way to it from the current directory. An entry that is reached
from above the current directory has `..` before its names, one that is reached from the root a slash. -/
abbrev Location := List Text

namespace Location

/-- The root, where absolute paths start. -/
def root : Location := [[FilePath.slash]]

def start (path : FilePath) : Location := if path.root.isEmpty then [] else root

/-- The place of the directory above. The root is above itself. -/
def above (place : Location) : Location :=
  if place = root then root
  else if place.all (· == FilePath.above) then place ++ [FilePath.above]
  else place.dropLast

def path (place : Location) : FilePath :=
  match place with
  | first :: parts => if [first] = root then ⟨first, parts⟩ else ⟨[], place⟩
  | [] => ⟨[], []⟩

end Location

/-- Files and directories. -/
structure FileTree where
  /-- The entries with their places, each place once. -/
  entries : List (Location × FileEntry) := []
deriving DecidableEq, Repr, Inhabited

/-- Why an operation on files failed. -/
inductive FileFault where
  | noSuchFile
  | fileExists
  /-- A component before the last one is no directory. -/
  | notADirectory
  | isADirectory
  /-- A component is too long for a name, or the path as a whole is too long. -/
  | nameTooLong
  /-- The path holds the null character, which no path may. -/
  | embeddedNull
deriving DecidableEq, Repr

namespace FileFault

/-- The number of a fault among the faults of the system. A path with a null character never gets as
far, and has none. -/
def number? : FileFault → Option Nat
  | noSuchFile => some 2
  | fileExists => some 17
  | notADirectory => some 20
  | isADirectory => some 21
  | nameTooLong => some 36
  | embeddedNull => none

/-- What a fault says. -/
def reason : FileFault → Text
  | noSuchFile => "No such file or directory"
  | fileExists => "File exists"
  | notADirectory => "Not a directory"
  | isADirectory => "Is a directory"
  | nameTooLong => "File name too long"
  | embeddedNull => "embedded null byte"

def message (fault : FileFault) (path : FilePath) : Text :=
  match fault.number? with
  | some number =>
    ("[Errno " : Text) ++ (toString number : Text) ++ ("] " : Text) ++ fault.reason ++ (": " : Text)
      ++ path.display.quoted
  | none => fault.reason

end FileFault

namespace FileTree

/-- The greatest number of bytes in a name. -/
def nameLimit : Nat := 255

/-- The greatest number of bytes in a path. -/
def pathLimit : Nat := 4095

/-- What stands at a place. The current directory is a directory. -/
def find? (tree : FileTree) (place : Location) : Option FileEntry :=
  if place.isEmpty then some .directory
  else (tree.entries.find? fun entry => entry.1 == place).map (·.2)

def put (tree : FileTree) (place : Location) (entry : FileEntry) : FileTree where
  entries :=
    if tree.entries.any (·.1 == place) then
      tree.entries.map fun old => if old.1 = place then (place, entry) else old
    else tree.entries ++ [(place, entry)]

/-- Takes one component: the place reached so far has to be a directory. -/
def enter (tree : FileTree) (place : Location) (part : Text) : Except FileFault Location :=
  match tree.find? place with
  | none => .error .noSuchFile
  | some (.file _) => .error .notADirectory
  | some .directory =>
    -- There are no links, so what is above does not depend on how the place was reached.
    if part = FilePath.above then .ok place.above
    else if nameLimit < (Utf8.encode part).length then .error .nameTooLong
    else .ok (place ++ [part])

/-- The place to which a path leads. Whether there is something at it is not looked at. -/
def locate (tree : FileTree) (path : FilePath) : Except FileFault Location :=
  if path.parts.any (·.contains (.scalar '\x00')) then .error .embeddedNull
  else if pathLimit < (Utf8.encode path.display).length then .error .nameTooLong
  else path.parts.foldlM tree.enter (Location.start path)

/-- What stands at a path. -/
def lookUp (tree : FileTree) (path : FilePath) : Except FileFault FileEntry := do
  match tree.find? (← tree.locate path) with
  | some entry => .ok entry
  | none => .error .noSuchFile

/-- Whether there is something at a path. At a path that is too long nothing can be, and asking is a fault;
any other path at which nothing can be has nothing at it. -/
def isPresent (tree : FileTree) (path : FilePath) : Except FileFault Bool :=
  match tree.lookUp path with
  | .ok _ => .ok true
  | .error .nameTooLong => .error .nameTooLong
  | .error _ => .ok false

def isDirectory (tree : FileTree) (path : FilePath) : Bool :=
  match tree.lookUp path with
  | .ok .directory => true
  | _ => false

def readBytes (tree : FileTree) (path : FilePath) : Except FileFault (List UInt8) := do
  match ← tree.lookUp path with
  | .file bytes => .ok bytes
  | .directory => .error .isADirectory

/-- Gives the file at a path a new content; a file that is not there is made. -/
def writeBytes (tree : FileTree) (path : FilePath) (bytes : List UInt8) :
    Except FileFault FileTree := do
  let place ← tree.locate path
  match tree.find? place with
  | some .directory => .error .isADirectory
  | _ => .ok (tree.put place (.file bytes))

/-- Makes a directory in one that is there. -/
def makeDirectory (tree : FileTree) (path : FilePath) : Except FileFault FileTree := do
  let place ← tree.locate path
  match tree.find? place with
  | some _ => .error .fileExists
  | none => .ok (tree.put place .directory)

/-- Makes a directory unless it is there, in one that is there. -/
def ensureOne (tree : FileTree) (path : FilePath) : Except (FileFault × FilePath) FileTree :=
  match tree.makeDirectory path with
  | .ok tree => .ok tree
  -- A path that ends in two dots is there as soon as what stands before them is.
  | .error fault => if tree.isDirectory path then .ok tree else .error (fault, path)

/-- Makes a directory and those above it, as far as they are not there. A fault is given with the path
at which it arose; the tree keeps what was made before. `depth` is the number of components that may
still be missing. -/
def ensureDirectory (depth : Nat) (tree : FileTree) (path : FilePath) :
    Option (FileFault × FilePath) × FileTree :=
  match depth, tree.makeDirectory path with
  | _, .ok tree => (none, tree)
  | depth + 1, .error .noSuchFile =>
    -- With nothing above it there is nothing that could be made first.
    if path.parent = path then (some (.noSuchFile, path), tree)
    else
      match ensureDirectory depth tree path.parent with
      | (none, tree) =>
        match tree.ensureOne path with
        | .ok tree => (none, tree)
        | .error fault => (some fault, tree)
      | failed => failed
  -- Whatever is wrong, a directory that is there is all that was asked for.
  | _, .error fault => if tree.isDirectory path then (none, tree) else (some (fault, path), tree)

/-- Makes a directory and those above it, as far as they are not there. -/
def makeDirectories (tree : FileTree) (path : FilePath) :
    Option (FileFault × FilePath) × FileTree :=
  ensureDirectory path.parts.length tree path

end FileTree

/-- Why the text of a file could not be read. -/
inductive ReadFault where
  | file (fault : FileFault) (path : FilePath)
  | encoding (fault : Utf8.Fault)
deriving DecidableEq, Repr

def ReadFault.message : ReadFault → Text
  | file fault path => fault.message path
  | encoding fault => fault.message

/-- The text of the file at a path, with line feeds as its only line ends. -/
def FileTree.readText (tree : FileTree) (path : FilePath) : Except ReadFault (List Char) :=
  match tree.readBytes path with
  | .error fault => .error (.file fault path)
  | .ok bytes =>
    match Utf8.decode bytes with
    | .error fault => .error (.encoding fault)
    | .ok text => .ok (unifyLineEnds text)

end SampleTypes
