import SampleTypes.Settings.Basic
import SampleTypes.Text.Split
/-!
# Settings that are worth a warning

A setting may be of the right kind and still be of no use: a negative indentation, a package name that
is none, or a policy that nobody knows. The last two concern Java alone. A line feed at the very end of
a package name is not noticed.
-/

set_option autoImplicit false

namespace SampleTypes

/-- The policies for the properties that generated classes include. -/
def includePolicies : List Text :=
  ["ALWAYS", "NON_NULL", "NON_ABSENT", "NON_EMPTY", "NON_DEFAULT"]

namespace PackageName

/-- Whether a code point may start a segment: an ASCII letter or an underscore. -/
def startsSegment : CodePoint → Bool
  | .scalar c => c.isAlpha || c = '_'
  | .surrogate _ => false

/-- Whether a code point may go on with a segment: also an ASCII digit. -/
def continuesSegment : CodePoint → Bool
  | .scalar c => c.isAlphanum || c = '_'
  | .surrogate _ => false

def isSegment : Text → Bool
  | [] => false
  | c :: t => startsSegment c && t.all continuesSegment

/-- Whether a text is a package name: segments with dots between them. -/
def isValid (name : Text) : Bool := (name.splitOn (.scalar '.')).all isSegment

def dropFinalLineFeed (t : Text) : Text :=
  if t.getLast? = some (.scalar '\n') then t.dropLast else t

/-- Whether a package name passes without a warning. -/
def passes (name : Text) : Bool := isValid name || isValid (dropFinalLineFeed name)

end PackageName

/-- A setting that is of no use. -/
inductive SettingsWarning where
  | indentSize (size : Int)
  | packageName (name : Text)
  | includePolicy (policy : Text)
deriving DecidableEq, Repr

def SettingsWarning.message : SettingsWarning → Text
  | indentSize size => ("Invalid indent_size: " : Text) ++ (toString size : Text)
  | packageName name => ("Invalid Java package name: " : Text) ++ name
  | includePolicy policy => ("Invalid json_include: " : Text) ++ policy

namespace Settings

/-- The warnings that concern every language. -/
def commonWarnings (settings : Settings) : List SettingsWarning :=
  if settings.indentSize < 0 then [.indentSize settings.indentSize] else []

/-- The warnings that concern Java alone. -/
def javaWarnings (settings : Settings) : List SettingsWarning :=
  (if PackageName.passes settings.packageName then [] else [.packageName settings.packageName]) ++
    match settings.jsonInclude with
    | some policy => if includePolicies.contains policy then [] else [.includePolicy policy]
    | none => []

/-- The warnings for settings under which code in a language is generated. The language has to be
written as it is registered. -/
def warnings (settings : Settings) (language : Text) : List SettingsWarning :=
  settings.commonWarnings ++ if language = ("java" : Text) then settings.javaWarnings else []

end Settings

end SampleTypes
