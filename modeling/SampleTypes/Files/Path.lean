import SampleTypes.Text.Split
/-!
# Paths

A path is written with `/` between its components. Empty components and `.` say nothing and are
dropped when a path is read, so that `./a//b/` and `a/b` are one path; `..` is kept, as what it leads
to depends on the files. A path that starts with a slash is absolute; one that starts with exactly two
keeps both.
-/

set_option autoImplicit false

namespace SampleTypes

structure FilePath where
  /-- The slashes at the start of an absolute path. -/
  root : Text := []
  parts : List Text := []
deriving DecidableEq, Repr

namespace FilePath

/-- The slash between components. -/
def slash : CodePoint := .scalar '/'

/-- The component for the directory itself. -/
def here : Text := "."

/-- The component for the directory above. -/
def above : Text := ".."

/-- The components of a path as it is written, without those that say nothing. -/
def partsOf (t : Text) : List Text :=
  (t.splitOn slash).filter fun part => !part.isEmpty && part != here

def ofText (t : Text) : FilePath where
  root :=
    match (t.takeWhile (· == slash)).length with
    | 0 => []
    | 2 => [slash, slash]
    | _ => [slash]
  parts := partsOf t

/-- How the path is written. -/
def display (path : FilePath) : Text :=
  if path.root.isEmpty && path.parts.isEmpty then here
  else path.root ++ Text.join [slash] path.parts

/-- The path of an entry of the directory at this path. -/
def child (path : FilePath) (name : Text) : FilePath :=
  { path with parts := path.parts ++ partsOf name }

/-- The path of the directory that holds the entry at this path. -/
def parent (path : FilePath) : FilePath := { path with parts := path.parts.dropLast }

/-- The last component. -/
def name (path : FilePath) : Text := path.parts.getLastD []

/-- The end of the last component from its last dot on, if there is something before and after it. -/
def ending (path : FilePath) : Text :=
  let dot : CodePoint := .scalar '.'
  let tail := (path.name.reverse.takeWhile (· != dot)).reverse
  let stem := path.name.length - tail.length
  if tail.isEmpty || stem < 2 then [] else dot :: tail

end FilePath

end SampleTypes
