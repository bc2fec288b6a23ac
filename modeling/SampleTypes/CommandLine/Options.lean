import SampleTypes.Text.CodePoint
/-!
# The options of the command line

Each option has one or more spellings, long ones after two dashes and short ones after one. Some take a
value, the others say what they say by being there.
-/

set_option autoImplicit false

namespace SampleTypes

inductive CommandOption where
  /-- Show the help text. -/
  | help
  /-- Fetch the sample from an address. -/
  | address
  /-- The seconds within which the answer to a fetch has to come. -/
  | timeout
  /-- The target language. -/
  | language
  /-- The name of the root. -/
  | rootName
  /-- The suffix of every declaration's name. -/
  | suffix
  /-- The file for the document. -/
  | output
  /-- The directory for a file of each declaration. -/
  | split
  /-- The settings file. -/
  | settingsFile
  /-- The spaces of one level of indentation. -/
  | indent
  /-- Indent with tabs. -/
  | tabs
  /-- Do not export interfaces. -/
  | noExport
  /-- The package of classes. -/
  | packageName
  /-- No annotations in place of boilerplate. -/
  | noLombok
  /-- The policy for included properties. -/
  | jsonInclude
  /-- List the languages. -/
  | listLanguages
  /-- Show declarations and warnings. -/
  | verbose
  /-- The least level of log records. -/
  | logLevel
  /-- Show the version. -/
  | version
deriving DecidableEq, Repr

namespace CommandOption

def all : List CommandOption :=
  [help, address, timeout, language, rootName, suffix, output, split, settingsFile, indent, tabs,
   noExport, packageName, noLombok, jsonInclude, listLanguages, verbose, logLevel, version]

def spellings : CommandOption → List Text
  | help => ["-h", "--help"]
  | address => ["--url"]
  | timeout => ["--timeout"]
  | language => ["--language", "-l"]
  | rootName => ["--root-name", "-r"]
  | suffix => ["--suffix", "-s"]
  | output => ["--output", "-o"]
  | split => ["--split"]
  | settingsFile => ["--config"]
  | indent => ["--indent"]
  | tabs => ["--tabs"]
  | noExport => ["--no-export"]
  | packageName => ["--package-name", "--package"]
  | noLombok => ["--no-lombok"]
  | jsonInclude => ["--json-include"]
  | listLanguages => ["--list-languages"]
  | verbose => ["--verbose", "-v"]
  | logLevel => ["--log-level"]
  | version => ["--version"]

def takesValue : CommandOption → Bool
  | help | tabs | noExport | noLombok | listLanguages | verbose | version => false
  | _ => true

/-- The name of an option in messages: all its spellings. -/
def title (option : CommandOption) : Text := Text.join "/" option.spellings

/-- All spellings with their options, in the order in which they are listed. -/
def table : List (Text × CommandOption) :=
  all.flatMap fun option => option.spellings.map fun spelling => (spelling, option)

def ofSpelling? (spelling : Text) : Option CommandOption :=
  (table.find? fun entry => entry.1 == spelling).map (·.2)

end CommandOption

end SampleTypes
