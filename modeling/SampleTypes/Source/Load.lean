import SampleTypes.Files.Tree
import SampleTypes.Log
import SampleTypes.Settings.Source
import SampleTypes.Source.Address
/-!
# Loading a sample

The text of a sample comes from the net, from a file or from standard input. An address wins over
standard input, and a file may not be named beside it. Loading reports every step in log records, and
which fetches it made.
-/

set_option autoImplicit false

namespace SampleTypes

/-- What a fetch gives. -/
inductive FetchAnswer where
  /-- A response with its status, the type of its content if it names one, and its text. -/
  | response (status : Int) (contentType : Option Text) (text : Text)
  | timeout
  | noConnection (reason : Text)
  | failure (reason : Text)
deriving DecidableEq, Repr

/-- What surrounds a run: files, standard input and the net. -/
structure Surroundings where
  files : FileTree := {}
  input : Text := []
  /-- The answer to a fetch from an address within a number of seconds, if one is given. -/
  fetch : Text → Option Int → FetchAnswer := fun _ _ => .noConnection "refused"

/-- A fetch: the address, and the seconds within which the answer has to come, if they are given. -/
abbrev Request := Text × Option Int

/-- A loaded text. -/
structure Loaded where
  source : Text
  text : Text
deriving DecidableEq, Repr

/-- Why no text could be loaded. -/
inductive LoadError where
  | bothSources
  | missingFile (path : FilePath)
  /-- There can be no file at the path. -/
  | unusablePath (path : FilePath) (fault : FileFault)
  | unreadableFile (path : FilePath) (fault : ReadFault)
  | incompleteAddress (address : Text)
  | badAddress (fault : AddressFault)
  | timeout (address : Text)
  | noConnection (address : Text)
  | badStatus (status : Int) (address : Text)
  | failure (address reason : Text)
deriving DecidableEq, Repr

def LoadError.message : LoadError → Text
  | bothSources => "Cannot specify both file_path and url"
  | missingFile path => ("File not found: " : Text) ++ path.display
  | unusablePath path fault => fault.message path
  | unreadableFile path fault =>
    ("Error reading file " : Text) ++ path.display ++ (": " : Text) ++ fault.message
  | incompleteAddress address => ("Invalid URL: " : Text) ++ address
  | badAddress fault => fault.message
  | timeout address => ("Request timeout for URL: " : Text) ++ address
  | noConnection address => ("Connection error for URL: " : Text) ++ address
  | badStatus status address =>
    ("HTTP error " : Text) ++ (toString status : Text) ++ (" for URL: " : Text) ++ address
  | failure address reason =>
    ("Request error for URL " : Text) ++ address ++ (": " : Text) ++ reason

/-- What loading came to, with the records and the fetches it made. -/
structure Loading where
  /-- The text, or why there is none. -/
  result : Except LoadError Loaded
  records : List LogRecord
  requests : List Request := []

structure SampleSource where
  /-- The path of a file; `-` and the empty path stand for standard input. -/
  file : Option Text := none
  /-- An address; the empty one stands for none. -/
  address : Option Text := none
  /-- The seconds within which the answer to a fetch has to come, if they are given. -/
  timeout : Option Int := some 30
deriving DecidableEq, Repr

namespace SampleSource

def namedFile? (source : SampleSource) : Option Text :=
  source.file.filter fun file => !file.isEmpty && file != ("-" : Text)

def namedAddress? (source : SampleSource) : Option Text :=
  source.address.filter fun address => !address.isEmpty

end SampleSource

namespace Loading

/-- Loads the text of a file that is there, with the record of what was done before. -/
def fromPresentFile (files : FileTree) (path : FilePath) (begun : LogRecord) : Loading :=
  -- The ending of the name is remarked upon, no more: whether the text is JSON shows when it is read.
  let begun := begun ::
    if path.isJson then []
    else [.warning (("File does not have .json extension: " : Text) ++ path.display)]
  match files.readText path with
  | .error fault =>
    let error := LoadError.unreadableFile path fault
    { result := .error error, records := begun ++ [.error error.message] }
  | .ok text =>
    { result := .ok ⟨path.display, Text.ofChars text⟩
      records := begun ++ [.info (("Read " : Text) ++ (toString text.length : Text)
        ++ (" characters from " : Text) ++ path.display)] }

def fromFile (files : FileTree) (path : FilePath) : Loading :=
  let begun : LogRecord := .debug (("Attempting to read JSON from file: " : Text) ++ path.display)
  match files.isPresent path with
  | .error fault => { result := .error (.unusablePath path fault), records := [begun] }
  | .ok false =>
    { result := .error (.missingFile path)
      records := [begun, .error (("File not found: " : Text) ++ path.display)] }
  | .ok true => fromPresentFile files path begun

def isJsonType (contentType : Text) : Bool :=
  Text.occursIn "application/json" contentType

/-- What a response with the text of a sample comes to. Its type is remarked upon unless it is that of JSON
or the address ends as the name of a JSON file does. -/
def fromResponse (address : Text) (contentType : Option Text) (text : Text) :
    Except LoadError Loaded × List LogRecord :=
  let kind := (contentType.getD []).lowerCase
  let remark : List LogRecord :=
    if isJsonType kind || List.isSuffixOf (".json" : Text) address then []
    else [.warning (("URL " : Text) ++ address ++ (" does not have JSON content type: " : Text)
      ++ kind)]
  (.ok ⟨address, text⟩, remark ++ [.info (("Fetched JSON from " : Text) ++ address)])

/-- What the answer to a fetch comes to. A status from 400 on is that of an error. -/
def fromAnswer (address : Text) : FetchAnswer → Except LoadError Loaded × List LogRecord
  | .response status contentType text =>
    if 400 ≤ status then
      let error := LoadError.badStatus status address
      (.error error, [.error error.message])
    else fromResponse address contentType text
  | .timeout =>
    let error := LoadError.timeout address
    (.error error, [.error error.message])
  | .noConnection reason =>
    -- The reason stands in the record only; the error does not carry it.
    (.error (.noConnection address),
      [.error (("Connection error for URL " : Text) ++ address ++ (": " : Text) ++ reason)])
  | .failure reason =>
    let error := LoadError.failure address reason
    (.error error, [.error error.message])

/-- Loads the text at an address. Nothing is fetched from an incomplete one. -/
def fromAddress (fetch : Text → Option Int → FetchAnswer) (timeout : Option Int) (address : Text) :
    Loading :=
  let begun : LogRecord := .debug (("Attempting to fetch JSON from URL: " : Text) ++ address)
  match Address.isComplete address with
  | .error fault => { result := .error (.badAddress fault), records := [begun] }
  | .ok false =>
    { result := .error (.incompleteAddress address)
      records := [begun, .error (("Invalid URL format: " : Text) ++ address)] }
  | .ok true =>
    let (result, records) := fromAnswer address (fetch address timeout)
    { result, records := begun :: records, requests := [(address, timeout)] }

/-- How standard input is called as the source of a text. -/
def inputName : Text := "<stdin>"

/-- Loads what stands on standard input. -/
def fromInput (input : Text) : Loading where
  result := .ok ⟨inputName, input⟩
  records := [.debug "Reading JSON from standard input"]

def run (surroundings : Surroundings) (source : SampleSource) : Loading :=
  match source.namedFile?, source.namedAddress? with
  | some _, some _ =>
    { result := .error .bothSources, records := [.error "Both file_path and url provided"] }
  | none, some address => fromAddress surroundings.fetch source.timeout address
  | some file, none => fromFile surroundings.files (.ofText file)
  | none, none => fromInput surroundings.input

end Loading

end SampleTypes
