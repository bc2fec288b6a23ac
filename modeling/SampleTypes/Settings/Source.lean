import SampleTypes.Files.Tree
import SampleTypes.Json.Reader
import SampleTypes.Settings.Layers
import SampleTypes.Text.LowerCase
/-!
# Where settings come from

A settings file is a JSON file with an object in it, in the lenient dialect. It is refused with the
first thing that is wrong: it is not there, its name does not end in `.json`, it cannot be read, it is
not JSON, or it holds something other than an object.
-/

set_option autoImplicit false

namespace SampleTypes

/-- Why settings could not be loaded. -/
inductive SettingsError where
  | missing (path : FilePath)
  /-- There can be no file at the path. -/
  | unusablePath (path : FilePath) (fault : FileFault)
  | notJsonFile (path : FilePath)
  | unreadable (path : FilePath) (fault : ReadFault)
  | malformed (path : FilePath) (fault : Json.Fault) (position : Json.Position)
  | notObject (path : FilePath)
  /-- The content goes beyond a limit of the reader. -/
  | beyondLimit (refusal : Json.Refusal Json.Position)
  | setting (fault : SettingFault)

namespace SettingsError

/-- How a place in a file is written. -/
def placeText (position : Json.Position) : Text :=
  ("line " : Text) ++ (toString position.line : Text) ++ (" column " : Text)
    ++ (toString position.column : Text) ++ (" (char " : Text) ++ (toString position.offset : Text)
    ++ (")" : Text)

/-- The wording for a text that goes beyond a limit of the reader. -/
def limitMessage : Json.Refusal Json.Position → Text
  | .integerTooLong digits => Json.integerTooLongMessage digits
  | .nestedTooDeep container =>
    ("maximum recursion depth exceeded while decoding a JSON " : Text) ++ (container.name : Text)
      ++ (" from a unicode string" : Text)
  | .constant name => name
  | .malformed fault _ => fault.message

def message : SettingsError → Text
  | missing path => ("Configuration file not found: " : Text) ++ path.display
  | unusablePath path fault => fault.message path
  | notJsonFile path => ("Configuration file must be JSON: " : Text) ++ path.display
  | unreadable path fault =>
    ("Failed to load configuration file " : Text) ++ path.display ++ (": " : Text) ++ fault.message
  | malformed path fault position =>
    ("Invalid JSON in configuration file " : Text) ++ path.display ++ (": " : Text)
      ++ (fault.message : Text) ++ (": " : Text) ++ placeText position
  | notObject path => ("Configuration file must contain a JSON object: " : Text) ++ path.display
  | beyondLimit refusal => limitMessage refusal
  | setting fault => fault.message

end SettingsError

/-- Whether a path ends as that of a JSON file does, in letters of either case. -/
def FilePath.isJson (path : FilePath) : Bool := path.ending.lowerCase == (".json" : Text)

namespace Settings

def Layer.ofFileText (path : FilePath) (text : List Char) : Except SettingsError Layer :=
  match Json.read .lenient text with
  | .ok (.obj members) => .ok members
  | .ok _ => .error (.notObject path)
  | .error (.malformed fault position) => .error (.malformed path fault position)
  | .error refusal => .error (.beyondLimit refusal)

def Layer.ofFile (files : FileTree) (path : FilePath) : Except SettingsError Layer :=
  match files.isPresent path with
  | .error fault => .error (.unusablePath path fault)
  | .ok false => .error (.missing path)
  | .ok true =>
    if !path.isJson then .error (.notJsonFile path)
    else
      match files.readText path with
      | .error fault => .error (.unreadable path fault)
      | .ok text => Layer.ofFileText path text

/-- The settings of a language, from its defaults, a file if one is named, and the user's own layer. An
empty path names no file. -/
def load (defaults : SettingDefaults) (files : FileTree) (language : Text) (file : Option Text)
    (own : Layer) : Except SettingsError Settings := do
  let fileLayer ← match file with
    | none | some [] => .ok []
    | some path => Layer.ofFile files (.ofText path)
  match defaults.settings language fileLayer own with
  | .ok settings => .ok settings
  | .error fault => .error (.setting fault)

end Settings

end SampleTypes
