import SampleTypes.CommandLine.Arguments
import SampleTypes.CommandLine.Help
import SampleTypes.Console.Output
import SampleTypes.Registry
import SampleTypes.Settings.Warnings
import SampleTypes.Source.Load
/-!
# A run of the command line

A run reads its arguments, loads a sample, generates code and puts it out: on standard output, into one
file, or into a directory. Nothing is put out before all code is generated. What a run does to its
surroundings is gathered in a `Session`; a run that fails keeps what it did before.

Most failures are reported on the console and end the run with status 1. A few are beyond what the
program reports itself, and end it without a status; among them are those of the console.
-/

set_option autoImplicit false

namespace SampleTypes

/-- What a run has done so far. -/
structure Session where
  output : Text := []
  /-- What the console shows, the last piece first. -/
  console : List ConsoleOutput := []
  /-- The log records, the last one first. -/
  records : List LogRecord := []
  requests : List Request := []
  files : FileTree := {}

/-- Why a run failed. -/
inductive RunFailure where
  | setup (error : SetupError)
  | load (error : LoadError)
  | generation (error : GenerationError)
  | document (path : FilePath) (fault : FileFault)
  | fileSet (directory path : FilePath) (fault : FileFault)
  | encoding (fault : Utf8.SurrogateFault)
  | console (fault : Markup.Fault)
  | droppedLanguage
  | droppedLogLevel

namespace RunFailure

/-- Whether the program reports the failure itself. It does not report a text that goes beyond a limit of
the reader, an address that is refused outright, a path that is too long to be looked at, a path with a
null character that is to be written, a text without an encoding, an indentation that cannot be made up, a
language without a target, a text that the console cannot show, and options that need a value and have
lost it. -/
def isReported : RunFailure → Bool
  | setup (.settings (.beyondLimit _)) | setup (.settings (.unusablePath _ _)) => false
  | setup (.noTarget _) => false
  | load (.unusablePath _ _) => false
  | generation (.code (.indent _)) => false
  | load (.badAddress _) => false
  | document _ .embeddedNull => false
  | fileSet _ _ .embeddedNull => false
  | encoding _ | console _ | droppedLanguage | droppedLogLevel => false
  | _ => true

def message : RunFailure → Text
  | setup error => error.message
  | load error => error.message
  | generation error => error.message
  | document path fault =>
    match fault with
    | .embeddedNull => fault.message path
    | _ => ("Failed to write to " : Text) ++ path.display ++ (": " : Text) ++ fault.message path
  | fileSet directory path fault =>
    match fault with
    | .embeddedNull => fault.message path
    | _ =>
      ("Failed to write files to " : Text) ++ directory.display ++ (": " : Text)
        ++ fault.message path
  | encoding fault => fault.message
  | console fault => fault.message
  | droppedLanguage => "'list' object has no attribute 'lower'"
  | droppedLogLevel => "Level not an integer or a valid string: []"

end RunFailure

/-- A step of a run: it goes on from what was done so far, or fails. -/
abbrev RunStep := ExceptT RunFailure (StateM Session)

inductive RunEnding where
  | status (code : Nat)
  | usage (error : UsageError)
  /-- With a failure that the program does not report itself. -/
  | failure (failure : RunFailure)

/-- What a run comes to. -/
structure RunOutcome where
  ending : RunEnding
  output : Text
  /-- What the console shows, in order. -/
  console : List ConsoleOutput
  records : List LogRecord
  requests : List Request
  files : FileTree

namespace Arguments

/-- The value of the setting for the indent. Without a number it is none that the setting can have. -/
def indentValue (size : Option Int) : Json := (size.map Json.int).getD (.arr [])

def layer (arguments : Arguments) : Settings.Layer :=
  (arguments.indent.map fun size => (SettingKey.indentSize.name, indentValue size)).toList ++
  (if arguments.tabs then [(SettingKey.useTabs.name, .bool true)] else []) ++
  (if arguments.noExport then [(SettingKey.exportDeclarations.name, .bool false)] else []) ++
  -- An empty package counts as none, and so does an empty policy; the indent may be anything.
  ((arguments.packageName.filter fun name => !name.isEmpty).map fun name =>
    (SettingKey.packageName.name, Json.str name)).toList ++
  (if arguments.noLombok then [(SettingKey.useLombok.name, .bool false)] else []) ++
  ((arguments.jsonInclude.filter fun policy => !policy.isEmpty).map fun policy =>
    (SettingKey.jsonInclude.name,
      if policy.upperCase = ("NONE" : Text) then .null else Json.str policy.upperCase)).toList

/-- The sample to load. -/
def sampleSource (arguments : Arguments) : SampleSource :=
  { file := arguments.file, address := arguments.address, timeout := arguments.timeout }

/-- What the code is generated from, beside the sample. -/
def rootNaming (arguments : Arguments) : RootNaming :=
  { rootName := arguments.rootName, suffix := arguments.suffix }

end Arguments

namespace RunStep

/-- Shows a piece of console output. -/
def display (output : ConsoleOutput) : RunStep Unit :=
  modify fun session => { session with console := output :: session.console }

def log (records : List LogRecord) : RunStep Unit :=
  modify fun session => { session with records := records.reverse ++ session.records }

/-- Goes on with a result, or fails with its error. -/
def ofExcept {ε α : Type} (failure : ε → RunFailure) : Except ε α → RunStep α
  | .ok x => pure x
  | .error e => throw (failure e)

/-- Shows a line of marked-up text. -/
def print (t : Text) : RunStep Unit := do
  display (← ofExcept .console (ConsoleOutput.marked t))

/-! ## The stages of a run -/

/-- Shows the warnings about settings. -/
def warnOf (settings : Settings) (language : Text) : RunStep Unit :=
  (settings.warnings language).forM fun warning =>
    print (("[yellow]⚠️  " : Text) ++ Markup.escape warning.message ++ ("[/yellow]" : Text))

/-- Loads the settings for a language, with warnings about them. -/
def loadSettings (arguments : Arguments) (wanted : Text) : RunStep Settings := do
  let language ← ofExcept .setup (Registry.builtin.primaryOf wanted)
  let settings ← ofExcept (.setup ∘ .settings)
    (Settings.load .builtin (← get).files language arguments.settingsFile arguments.layer)
  warnOf settings language
  return settings

/-- Makes the generator for a language. -/
def makeGenerator (arguments : Arguments) (wanted : Text) : RunStep Generator := do
  let settings ← loadSettings arguments wanted
  ofExcept .setup (Registry.builtin.generator (← get).files wanted (.ready settings))

def loadSample (surroundings : Surroundings) (arguments : Arguments) : RunStep Loaded := do
  let loading := Loading.run { surroundings with files := (← get).files } arguments.sampleSource
  log loading.records
  modify fun session => { session with requests := session.requests ++ loading.requests }
  ofExcept .load loading.result

def inferSchema (generator : Generator) (naming : RootNaming) (text : Text) : RunStep Schema := do
  let schema ← ofExcept .generation (generator.schema naming (text.map CodePoint.toChar))
  log (schema.records generator.target.name)
  return schema

def withLineFeed (t : Text) : Text := t ++ [.lineFeed]

/-- Gives a file a new content. -/
def writeBytes (path : FilePath) (bytes : List UInt8) (failure : FileFault → RunFailure) :
    RunStep Unit := do
  let files ← ofExcept failure ((← get).files.writeBytes path bytes)
  modify fun session => { session with files }

/-- Writes a text into a file. The file is there before the text is encoded, so a text without an encoding
leaves it empty. -/
def writeText (path : FilePath) (t : Text) (failure : FileFault → RunFailure) : RunStep Unit :=
  match Utf8.encodeStrictly t with
  | .ok bytes => writeBytes path bytes failure
  | .error fault => do
    writeBytes path [] failure
    throw (.encoding fault)

/-- Puts the document out: into a file if one is named, otherwise on standard output. -/
def putDocument (generator : Generator) (code : Text) (output : Option Text) : RunStep Unit :=
  match output.filter fun path => !path.isEmpty with
  | some path => do
    let path := FilePath.ofText path
    writeText path (withLineFeed code) (.document path)
    -- The path is not escaped, so a tag in it is taken as one.
    print (("[green]✓[/green] Generated " : Text) ++ generator.target.name
      ++ (" code saved to [cyan]" : Text) ++ path.display ++ ("[/cyan]" : Text))
  | none => modify fun session => { session with output := session.output ++ withLineFeed code }

/-- Generates the document and puts it out. -/
def runDocument (generator : Generator) (arguments : Arguments) (text : Text) : RunStep Unit := do
  let schema ← inferSchema generator arguments.rootNaming text
  -- The warnings are logged whether or not code can be generated; with a set of files they are not.
  log ((schemaWarnings schema.declarations).map fun warning => .info warning.message)
  let code ← ofExcept .generation (generator.documentOf schema)
  putDocument generator code arguments.output

/-- Makes a directory and those above it, as far as they are not there. -/
def makeDirectories (directory : FilePath) : RunStep Unit := do
  let (fault, files) := (← get).files.makeDirectories directory
  modify fun session => { session with files }
  match fault with
  | some (fault, path) => throw (.fileSet directory path fault)
  | none => pure ()

/-- Generates the files and puts them into a directory. -/
def runFileSet (generator : Generator) (arguments : Arguments) (text directory : Text) :
    RunStep Unit := do
  let schema ← inferSchema generator arguments.rootNaming text
  -- All code is there before the first directory is made.
  let files ← ofExcept .generation (generator.filesOf schema)
  let directory := FilePath.ofText directory
  makeDirectories directory
  files.forM fun file =>
    let path := directory.child file.name
    writeText path (withLineFeed file.content) (.fileSet directory path)
  print (("[green]✓[/green] Wrote " : Text) ++ (toString files.length : Text)
    ++ (" file(s) to [cyan]" : Text) ++ directory.display ++ ("[/cyan]" : Text))

def declarationRow (rootName : Text) (d : Declaration) : List Text :=
  [if d.name = rootName then d.name ++ (" (root)" : Text) else d.name,
   toString d.fields.length,
   if d.dependencies.isEmpty then ("none" : Text) else Text.join ", " d.dependencies]

/-- Shows the declarations, the references that the order leaves out of account, and the warnings. -/
def showSchema (generator : Generator) (arguments : Arguments) (text : Text) : RunStep Unit := do
  let schema ← inferSchema generator arguments.rootNaming text
  display .blank
  display (.table "📊 Inferred Declarations" ["Declaration", "Fields", "Depends On"]
    (schema.declarations.map (declarationRow schema.rootName)))
  schema.skipped.forM fun edge =>
    print (("[dim]↻ cycle " : Text) ++ edge.1 ++ (" -> " : Text) ++ edge.2
      ++ (" not used for ordering[/dim]" : Text))
  let warnings := schemaWarnings schema.declarations
  if !warnings.isEmpty then
    print "\n[yellow]⚠️  Warnings:[/yellow]"
    warnings.forM fun warning =>
      print (("  [yellow]•[/yellow] " : Text) ++ Markup.escape warning.message)
    display .blank

def languageRow (info : LanguageInfo) : List Text :=
  [info.target.name, info.target.fileEnding, info.target.namePattern, info.target.generatorName,
   if info.aliases.isEmpty then ("none" : Text) else Text.join ", " info.aliases]

def listLanguages (registry : Registry) : RunStep Unit := do
  display .blank
  display (.table "📋 Supported Languages"
    ["Language", "Extension", "Naming", "Generator Class", "Aliases"]
    (registry.languages.filterMap fun language =>
      (registry.info language).toOption.map languageRow))
  display .blank
  display (.panel "💡 Quick Start"
    "Usage: json-to-code input.json --language LANGUAGE --root-name NAME")

/-- Says that a language is not among those of a registry. -/
def refuseLanguage (registry : Registry) (language : Text) : RunStep Unit := do
  -- Like a path above, the name is not escaped.
  print (("[red]✗ Unsupported language '" : Text) ++ language ++ ("'[/red]" : Text))
  print (("[dim]Supported languages: " : Text) ++ Text.join ", " registry.languages
    ++ ("[/dim]" : Text))

/-- Generates code from a sample and puts it out: into a directory if one is named, otherwise as one
document. -/
def putCode (generator : Generator) (arguments : Arguments) (text : Text) : RunStep Unit :=
  match arguments.split.filter fun directory => !directory.isEmpty with
  | some directory => runFileSet generator arguments text directory
  | none => runDocument generator arguments text

/-- Does what has to be done for a language, except that the schema is not shown. Gives the generator and
the text of the sample. -/
def produce (surroundings : Surroundings) (arguments : Arguments) (wanted : Text) :
    RunStep (Generator × Text) := do
  let generator ← makeGenerator arguments wanted
  let loaded ← loadSample surroundings arguments
  log [.info (("Generating " : Text) ++ generator.target.name ++ (" code from " : Text)
    ++ loaded.source)]
  putCode generator arguments loaded.text
  return (generator, loaded.text)

/-- Generates code from a sample and puts it out. If that is asked for, the schema is shown afterwards; it
is inferred once more for that. -/
def generate (surroundings : Surroundings) (arguments : Arguments) (wanted : Text) :
    RunStep Unit := do
  let (generator, text) ← produce surroundings arguments wanted
  if arguments.verbose then showSchema generator arguments text

/-- Does what the arguments ask for, and gives the status. -/
def perform (surroundings : Surroundings) (arguments : Arguments) : RunStep Nat := do
  -- The languages are listed whatever else is asked for.
  if arguments.listLanguages then
    listLanguages .builtin
    return 0
  let some wanted := arguments.language | throw .droppedLanguage
  if !Registry.builtin.supports wanted then
    refuseLanguage .builtin wanted
    return 1
  generate surroundings arguments wanted
  return 0

/-- Reports a failure, unless it is one that the program does not report. -/
def report (failure : RunFailure) : RunStep Nat := do
  if !failure.isReported then throw failure
  log [.error (("Code generation failed: " : Text) ++ failure.message)]
  print (("[red]✗[/red] " : Text) ++ Markup.escape failure.message)
  return 1

end RunStep

namespace Session

/-- The outcome of a session. Of the records those at or above the threshold are shown. -/
def outcome (session : Session) (threshold : Int) (ending : RunEnding) : RunOutcome where
  ending := ending
  output := session.output
  console := session.console.reverse
  records := session.records.reverse.filter (LogRecord.isShown threshold)
  requests := session.requests
  files := session.files

end Session

namespace RunOutcome

/-- The outcome of a run that does nothing but write a text on standard output. -/
def ofText (files : FileTree) (t : Text) : RunOutcome :=
  { ending := .status 0, output := t, console := [], records := [], requests := [], files }

/-- The outcome of a run that ends before it does anything. -/
def ofEnding (files : FileTree) (ending : RunEnding) : RunOutcome :=
  { ending, output := [], console := [], records := [], requests := [], files }

end RunOutcome

/-- Runs with arguments that are understood, down to log records of a threshold. -/
def Arguments.run (arguments : Arguments) (surroundings : Surroundings) (threshold : Int) :
    RunOutcome :=
  let start : Session := { files := surroundings.files }
  let steps : RunStep Nat := tryCatch (RunStep.perform surroundings arguments) RunStep.report
  -- What is thrown while a failure is reported is not caught again.
  match steps.run.run start with
  | (.ok code, session) => session.outcome threshold (.status code)
  | (.error failure, session) => session.outcome threshold (.failure failure)

def runCommandLine (surroundings : Surroundings) (argv : List Text) : RunOutcome :=
  match Arguments.read argv with
  | .error .help => .ofText surroundings.files helpText
  | .error .version => .ofText surroundings.files versionText
  | .error (.usage error) => .ofEnding surroundings.files (.usage error)
  | .ok arguments =>
    match arguments.logLevel with
    | none => .ofEnding surroundings.files (.failure .droppedLogLevel)
    | some level =>
      match LogLevel.threshold? level with
      | none => .ofEnding surroundings.files (.usage (.unknownLogLevel level))
      | some threshold => arguments.run surroundings threshold

end SampleTypes
