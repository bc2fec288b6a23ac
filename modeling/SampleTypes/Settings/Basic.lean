import SampleTypes.Json.Basic
import SampleTypes.Text.CodePoint
/-!
# Settings

What a user may choose about the generated code. One structure serves all targets; each reads what
concerns it. Settings that no target knows are kept in `custom`.
-/

set_option autoImplicit false

namespace SampleTypes

/-- The settings of a run. -/
structure Settings where
  packageName : Text := []
  /-- The number of spaces of one level of indentation. -/
  indentSize : Int := 2
  /-- Whether a tab takes the place of those spaces. -/
  useTabs : Bool := false
  exportDeclarations : Bool := true
  /-- Whether generated classes carry the annotations that write their boilerplate. -/
  useLombok : Bool := true
  /-- Which properties generated classes include when they are written as JSON. -/
  jsonInclude : Option Text := some "NON_NULL"
  /-- The settings that no target knows. -/
  custom : List (Text × Json) := []

/-- Why a level of indentation cannot be made up. -/
inductive IndentFault where
  | sizeBeyondLimit
  | noRoom
deriving DecidableEq, Repr

/-- The wording of a fault. Want of room is not put into words. -/
def IndentFault.message : IndentFault → Text
  | sizeBeyondLimit => "cannot fit 'int' into an index-sized integer"
  | noRoom => []

namespace Settings

/-- The numbers that count as the size of something lie below this one, and not below its negative. -/
def sizeLimit : Int := 0x8000000000000000

/-- The number of spaces for which there is always room. -/
def indentRoom : Int := 0x100000000

/-- One level of indentation. A negative size is none at all. -/
def indent (settings : Settings) : Except IndentFault Text :=
  if settings.useTabs then .ok "\t"
  else if settings.indentSize < -sizeLimit ∨ sizeLimit ≤ settings.indentSize then
    .error .sizeBeyondLimit
  else if indentRoom < settings.indentSize then .error .noRoom
  else .ok (List.replicate settings.indentSize.toNat (.scalar ' '))

end Settings

end SampleTypes
