import SampleTypes.Text.UpperCase
/-!
# Log records and levels

A run reports what it does in records of four levels. Which of them are shown is decided by a
threshold, given as a number or by the name of a level in letters of any case.
-/

set_option autoImplicit false

namespace SampleTypes

/-- The level of a record. -/
inductive LogLevel where
  /-- What the run does, step by step. -/
  | debug
  | info
  | warning
  | error
deriving DecidableEq, Repr

structure LogRecord where
  level : LogLevel
  message : Text
deriving DecidableEq, Repr

namespace LogLevel

def name : LogLevel → Text
  | debug => "DEBUG"
  | info => "INFO"
  | warning => "WARNING"
  | error => "ERROR"

/-- The number of a level; a greater one is more severe. -/
def number : LogLevel → Int
  | debug => 10
  | info => 20
  | warning => 30
  | error => 40

/-- The names of thresholds with their numbers. -/
def thresholds : List (Text × Int) :=
  [("CRITICAL", 50), ("FATAL", 50), ("ERROR", 40), ("WARN", 30), ("WARNING", 30), ("INFO", 20),
   ("DEBUG", 10), ("NOTSET", 0)]

def threshold? (name : Text) : Option Int :=
  (thresholds.find? fun entry => entry.1 == name.upperCase).map (·.2)

/-- The wording for a name that no threshold has. -/
def unknownMessage (name : Text) : Text := ("Unknown log level: " : Text) ++ name

end LogLevel

namespace LogRecord

/-- Whether a record is shown at a threshold. The threshold zero stands for none of its own; then that of
warnings holds. -/
def isShown (threshold : Int) (record : LogRecord) : Bool :=
  (if threshold = 0 then LogLevel.warning.number else threshold) ≤ record.level.number

/-- A record that tells what the run does. -/
def debug (message : Text) : LogRecord := ⟨.debug, message⟩

/-- A record that tells what the run has achieved. -/
def info (message : Text) : LogRecord := ⟨.info, message⟩

/-- A record that tells what may be wrong. -/
def warning (message : Text) : LogRecord := ⟨.warning, message⟩

/-- A record that tells what failed. -/
def error (message : Text) : LogRecord := ⟨.error, message⟩

end LogRecord

end SampleTypes
