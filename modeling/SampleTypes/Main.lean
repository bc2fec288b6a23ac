import SampleTypes.CommandLine.Run
/-!
# The program

A run is a function of its surroundings, so the program has little left to do: it looks at the paths that
the command line names, calls the run, and does what the run has come to. Where a run comes upon paths that
nobody named, as the files of a set are, it is called again with what stands there.

Nothing is ever fetched: every address is without a connection.
-/

set_option autoImplicit false

namespace SampleTypes

namespace Program

/-- How the outside spells a place. -/
def spelling (place : Location) : String := place.path.display.display

/-- What stands at a place in a directory. The content of a file is left out. -/
def lookAt (place : Location) : IO (Option FileEntry) := do
  try
    -- To open it in this mode tells a directory from a file, makes neither and changes neither.
    let _ ← IO.FS.Handle.mk (spelling place) .readWrite
    return some (.file [])
  catch error =>
    match error with
    | .noFileOrDirectory .. | .invalidArgument .. => return none
    | .inappropriateType .. => return some .directory
    | _ => return some (.file [])

/-- Adds what stands at a place to a tree. -/
def explorePlace (tree : FileTree) (place : Location) : IO FileTree := do
  if (tree.find? place).isSome then return tree
  match ← lookAt place with
  | some entry => return tree.put place entry
  | none => return tree

/-- Adds what stands at a path and on the way to it, as far as the way leads. -/
def explorePath (tree : FileTree) (path : FilePath) : IO FileTree := do
  let mut tree ← explorePlace tree (Location.start path)
  for count in List.range path.parts.length do
    if let .ok place := tree.locate { path with parts := path.parts.take (count + 1) } then
      tree ← explorePlace tree place
  return tree

/-- Adds the content of the file at a path, if there is one. -/
def exploreContent (tree : FileTree) (path : FilePath) : IO FileTree := do
  let tree ← explorePath tree path
  match tree.locate path, tree.lookUp path with
  | .ok place, .ok (.file _) =>
    let bytes ← IO.FS.readBinFile (spelling place)
    return tree.put place (.file bytes.toList)
  | _, _ => return tree

/-- The tree of what stands at the paths that arguments name. -/
def explore (arguments : Arguments) : IO FileTree := do
  let paths (texts : List (Option Text)) : List FilePath :=
    (texts.filterMap id).map FilePath.ofText
  let mut tree : FileTree := {}
  for path in paths [arguments.sampleSource.namedFile?, arguments.settingsFile] do
    tree ← exploreContent tree path
  for path in paths [arguments.output, arguments.split] do
    tree ← explorePath tree path
  return tree

def asksForInput (arguments : Arguments) : Bool :=
  !arguments.listLanguages && arguments.language.any Registry.builtin.supports
    && arguments.sampleSource.namedFile?.isNone && arguments.sampleSource.namedAddress?.isNone

def readInput : IO Text := do
  let bytes ← (← IO.getStdin).readBinToEnd
  match Utf8.decode bytes.toList with
  | .ok characters => return Text.ofChars (unifyLineEnds characters)
  | .error fault => throw (IO.userError fault.message)

/-- Makes what is in a tree and was not in it before. A directory stands before what is in it. -/
def carryOut (before after : FileTree) : IO Unit := do
  for (place, entry) in after.entries do
    if before.find? place != some entry then
      match entry with
      | .directory => IO.FS.createDir (spelling place)
      | .file bytes => IO.FS.writeBinFile (spelling place) ⟨bytes.toArray⟩

/-- Writes a line on standard error. -/
def say (t : Text) : IO Unit := IO.eprintln t.display

/-- Shows how a run ended, and gives the status of the program. -/
def finish : RunEnding → IO UInt32
  | .status code => return code.toUInt32
  | .usage error => do
    usageLines.forM say
    say (programName ++ (": error: " : Text) ++ error.message)
    return 2
  | .failure failure => do
    say failure.message
    return 1

/-- Runs the program with a command line, and gives its status. -/
def run (argv : List Text) : IO UInt32 := do
  let mut surroundings : Surroundings := {}
  if let .ok arguments := Arguments.read argv then
    surroundings := { surroundings with files := ← explore arguments }
    if asksForInput arguments then
      surroundings := { surroundings with input := ← readInput }
  let mut files := surroundings.files
  -- The first call only shows which places the run comes upon.
  for (place, _) in (runCommandLine surroundings argv).files.entries do
    files ← explorePlace files place
  let outcome := runCommandLine { surroundings with files } argv
  carryOut files outcome.files
  IO.print outcome.output.display
  for record in outcome.records do
    say (record.level.name ++ (" " : Text) ++ record.message)
  for output in outcome.console do
    output.layout.forM say
  finish outcome.ending

end Program

end SampleTypes

def main (argv : List String) : IO UInt32 :=
  SampleTypes.Program.run (argv.map SampleTypes.Text.ofString)
