import SampleTypes.CommandLine.Options
import SampleTypes.Json.Spelling
import SampleTypes.Log
import SampleTypes.Number.Integer
/-!
# Reading the command line

Every argument is classified first: an option, an operand, or the two dashes after which all is operand.
A long option may be cut short as long as only one spelling starts so. Short options that take no value
may be written together, and a value may be attached to its option: to a short one directly, to either
kind after an equals sign. Two dashes that are attached as a value are dropped, and the option is there
without one. There is one operand, the file; further ones are not understood.
-/

set_option autoImplicit false

namespace SampleTypes

/-- What a user asks for on the command line. An option whose value is dropped has the empty text instead;
where a text would say something else, the field says so. -/
structure Arguments where
  file : Option Text := none
  address : Option Text := none
  /-- See `CommandOption.timeout`; `none` if the value is dropped. -/
  timeout : Option Int := some 30
  /-- See `CommandOption.language`; `none` if the value is dropped. -/
  language : Option Text := some "typescript"
  rootName : Text := "Root"
  suffix : Text := []
  output : Option Text := none
  split : Option Text := none
  settingsFile : Option Text := none
  /-- See `CommandOption.indent`; `some none` if the value is dropped. -/
  indent : Option (Option Int) := none
  tabs : Bool := false
  noExport : Bool := false
  packageName : Option Text := none
  noLombok : Bool := false
  jsonInclude : Option Text := none
  listLanguages : Bool := false
  verbose : Bool := false
  /-- See `CommandOption.logLevel`; `none` if the value is dropped. -/
  logLevel : Option Text := some "WARNING"
deriving DecidableEq, Repr

/-- Why a command line is not understood. -/
inductive UsageError where
  | ambiguous (spelling : Text) (candidates : List Text)
  | missingValue (option : CommandOption)
  | notAnInteger (option : CommandOption) (value : Text)
  | superfluousValue (option : CommandOption) (value : Text)
  | conflict (option other : CommandOption)
  | leftOver (arguments : List Text)
  | unknownLogLevel (name : Text)
deriving DecidableEq, Repr

/-- The wording of an error that concerns one option. -/
def UsageError.about (option : CommandOption) (t : Text) : Text :=
  ("argument " : Text) ++ option.title ++ (": " : Text) ++ t

def UsageError.message : UsageError → Text
  | ambiguous spelling candidates =>
    ("ambiguous option: " : Text) ++ spelling ++ (" could match " : Text)
      ++ Text.join ", " candidates
  | missingValue option => about option "expected one argument"
  | notAnInteger option value => about option (("invalid int value: " : Text) ++ value.quoted)
  | superfluousValue option value =>
    about option (("ignored explicit argument " : Text) ++ value.quoted)
  | conflict option other =>
    about option (("not allowed with argument " : Text) ++ other.title)
  | leftOver arguments => ("unrecognized arguments: " : Text) ++ Text.join " " arguments
  | unknownLogLevel name => LogLevel.unknownMessage name

/-- Why reading a command line ends before its end. -/
inductive Interruption where
  | usage (error : UsageError)
  | help
  | version
deriving DecidableEq, Repr

namespace Arguments

/-! ## Classification -/

/-- An argument by what it is. -/
inductive Word where
  /-- An operand or the value of an option. -/
  | operand (text : Text)
  /-- The two dashes after which all is operand. -/
  | separator
  /-- An option, and what is attached to it. `isShort` says that it is spelled with one dash. -/
  | option (option : CommandOption) (isShort : Bool) (attached : Option Text)
  /-- Something that looks like an option and is none. -/
  | unknown (text : Text)
deriving DecidableEq, Repr

/-- The dash with which options start. -/
def dash : CodePoint := .scalar '-'

/-- The equals sign before a value. -/
def equalsSign : CodePoint := .scalar '='

/-- Whether a code point is a decimal digit of some script. -/
def isDecimalDigit : CodePoint → Bool
  | .scalar c => (decimalValue? c).isSome
  | .surrogate _ => false

/-- Whether a text looks like a negative number: a dash, and digits with at most one point before some of
them. A line feed at the end is not noticed. -/
def isNegativeNumber (t : Text) : Bool :=
  match (if t.getLast? = some (.scalar '\n') then t.dropLast else t) with
  | first :: t =>
    let rest := t.dropWhile isDecimalDigit
    first == dash &&
      match rest with
      | [] => !t.isEmpty
      | point :: decimals =>
        point == .scalar '.' && !decimals.isEmpty && decimals.all isDecimalDigit
  | [] => false

/-- The part of an argument before its first equals sign, and the value after it. -/
def splitSign (t : Text) : Text × Option Text :=
  let spelling := t.takeWhile (· != equalsSign)
  match t.drop spelling.length with
  | _ :: value => (spelling, some value)
  | [] => (spelling, none)

/-- The spellings that a long option cut short may stand for. -/
def completions (t : Text) : List (Text × Word) :=
  let (start, attached) := splitSign t
  (CommandOption.table.filter fun entry => start.isPrefixOf entry.1).map fun entry =>
    (entry.1, .option entry.2 (entry.1.take 2 != [dash, dash]) attached)

/-- The short option to which a value is attached directly. -/
def shortWithValue (t : Text) : List (Text × Word) :=
  (CommandOption.table.filter fun entry => entry.1 == t.take 2).map fun entry =>
    (entry.1, .option entry.2 true (some (t.drop 2)))

/-- What an argument may be taken for that is no option as it is spelled. -/
def candidates (t : Text) : List (Text × Word) :=
  if t.take 2 = [dash, dash] then completions t else shortWithValue t

/-- Classifies an argument before the two dashes. -/
def classify (t : Text) : Except UsageError Word :=
  if t.head? != some dash || t.length = 1 then .ok (.operand t)
  else
    match CommandOption.ofSpelling? t with
    | some option => .ok (.option option (t.take 2 != [dash, dash]) none)
    | none =>
      let (spelling, attached) := splitSign t
      match attached, CommandOption.ofSpelling? spelling with
      | some attached, some option =>
        .ok (.option option (spelling.take 2 != [dash, dash]) (some attached))
      | _, _ =>
        match candidates t with
        | [(_, word)] => .ok word
        -- A negative number, or something with a space in it, was hardly meant as an option.
        | [] => .ok (if isNegativeNumber t || t.contains (.scalar ' ') then .operand t else .unknown t)
        | several => .error (.ambiguous t (several.map (·.1)))

def classifyAll : List Text → Except UsageError (List Word)
  | [] => .ok []
  | t :: ts =>
    if t = [dash, dash] then .ok (.separator :: ts.map .operand)
    else do
      let word ← classify t
      return word :: (← classifyAll ts)

/-! ## Short options written together -/

/-- What an option with what is attached to it comes to. -/
inductive Reading where
  /-- Options without values. -/
  | flags (options : List CommandOption)
  /-- Options without values, and one with its value. -/
  | valued (options : List CommandOption) (last : CommandOption) (value : Text)
  /-- Options without values, and one whose value has to follow. -/
  | awaiting (options : List CommandOption) (last : CommandOption)

/-- Reads a short option and what is written together with it: further short options until one takes a
value, which is all that is left. `before` holds the options read already. -/
def readTogether (before : List CommandOption) (option : CommandOption) :
    Text → Except UsageError Reading
  | [] => .ok (if option.takesValue then .awaiting before option else .flags (before ++ [option]))
  | c :: t =>
    if option.takesValue then .ok (.valued before option (c :: t))
    else
      match CommandOption.ofSpelling? [dash, c] with
      | some next => readTogether (before ++ [option]) next t
      | none => .error (.superfluousValue option (c :: t))

/-- Reads an option with what is attached to it. -/
def readOption (option : CommandOption) (isShort : Bool) : Option Text → Except UsageError Reading
  | none => readTogether [] option []
  | some value =>
    if option.takesValue then .ok (.valued [] option value)
    else if isShort && !value.isEmpty then readTogether [] option value
    else .error (.superfluousValue option value)

/-! ## Taking options and operands -/

/-- What was read so far. -/
structure Progress where
  arguments : Arguments := {}
  /-- Whether the operand is still to come. -/
  needsFile : Bool := true
  /-- What is not understood, the last one first. -/
  leftOver : List Text := []

/-- Takes an option without a value. -/
def takeFlag (arguments : Arguments) : CommandOption → Except Interruption Arguments
  | .help => .error .help
  | .version => .error .version
  | .tabs => .ok { arguments with tabs := true }
  | .noExport => .ok { arguments with noExport := true }
  | .noLombok => .ok { arguments with noLombok := true }
  | .listLanguages => .ok { arguments with listLanguages := true }
  | .verbose => .ok { arguments with verbose := true }
  | _ => .ok arguments

/-- The value of an option that takes an integer. -/
def integerValue (option : CommandOption) (value : Text) : Except Interruption Int :=
  match integer? value with
  | some n => .ok n
  | none => .error (.usage (.notAnInteger option value))

/-- Takes an option with its value, which is `none` if it is dropped. A document and a directory for files
exclude each other. -/
def takeValued (arguments : Arguments) (option : CommandOption) (value : Option Text) :
    Except Interruption Arguments :=
  let text := value.getD []
  match option with
  | .address => .ok { arguments with address := some text }
  | .timeout => do return { arguments with timeout := ← value.mapM (integerValue option) }
  | .language => .ok { arguments with language := value }
  | .rootName => .ok { arguments with rootName := text }
  | .suffix => .ok { arguments with suffix := text }
  | .output =>
    if arguments.split.isSome then .error (.usage (.conflict .output .split))
    else .ok { arguments with output := some text }
  | .split =>
    if arguments.output.isSome then .error (.usage (.conflict .split .output))
    else .ok { arguments with split := some text }
  | .settingsFile => .ok { arguments with settingsFile := some text }
  | .indent => do return { arguments with indent := some (← value.mapM (integerValue option)) }
  | .packageName => .ok { arguments with packageName := some text }
  | .jsonInclude => .ok { arguments with jsonInclude := some text }
  | .logLevel => .ok { arguments with logLevel := value }
  | _ => .ok arguments

/-- The value that an option has through what is attached to it. -/
def keptValue (value : Text) : Option Text := if value = [dash, dash] then none else some value

namespace Progress

/-- Takes options without values, in order. -/
def takeFlags (progress : Progress) (options : List CommandOption) : Except Interruption Progress := do
  return { progress with arguments := ← options.foldlM takeFlag progress.arguments }

/-- Takes options without values and one with its value. -/
def takeLast (progress : Progress) (options : List CommandOption) (last : CommandOption)
    (value : Option Text) : Except Interruption Progress := do
  let progress ← progress.takeFlags options
  return { progress with arguments := ← takeValued progress.arguments last value }

/-- Puts an argument aside that is not understood. -/
def putAside (progress : Progress) (t : Text) : Progress :=
  { progress with leftOver := t :: progress.leftOver }

/-- Takes an operand: the file, if none was taken yet. -/
def takeOperand (progress : Progress) (t : Text) : Progress :=
  if progress.needsFile then
    { progress with
      arguments := { progress.arguments with file := some t }
      needsFile := false }
  else progress.putAside t

end Progress

/-- Reads an option with what is attached to it; if that is not understood, reading ends. -/
def readWordOption (option : CommandOption) (isShort : Bool) (attached : Option Text) :
    Except Interruption Reading :=
  match readOption option isShort attached with
  | .ok reading => .ok reading
  | .error error => .error (.usage error)

/-- Reads words one after the other. The two dashes are passed over right before and right after the file;
anywhere else they are not understood. -/
def readWords (progress : Progress) : List Word → Except Interruption Progress
  | [] => .ok progress
  | .operand t :: .separator :: words =>
    if progress.needsFile then readWords (progress.takeOperand t) words
    else readWords ((progress.putAside t).putAside [dash, dash]) words
  | .operand t :: words => readWords (progress.takeOperand t) words
  | .separator :: words =>
    readWords (if progress.needsFile then progress else progress.putAside [dash, dash]) words
  | .unknown t :: words => readWords (progress.putAside t) words
  | .option option isShort attached :: words =>
    match readWordOption option isShort attached with
    | .error interruption => .error interruption
    | .ok (.awaiting options last) =>
      match words with
      | .operand value :: words => do readWords (← progress.takeLast options last (some value)) words
      | _ => .error (.usage (.missingValue last))
    | .ok (.valued options last value) => do
      readWords (← progress.takeLast options last (keptValue value)) words
    | .ok (.flags options) => do readWords (← progress.takeFlags options) words

/-- Reads a command line. -/
def read (argv : List Text) : Except Interruption Arguments :=
  match classifyAll argv with
  | .error error => .error (.usage error)
  | .ok words => do
    let progress ← readWords {} words
    if progress.leftOver.isEmpty then .ok progress.arguments
    else .error (.usage (.leftOver progress.leftOver.reverse))

end Arguments

end SampleTypes
