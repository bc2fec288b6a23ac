import SampleTypes.Naming.Convention
import SampleTypes.Naming.FieldScope
import SampleTypes.Schema.Shapes
import SampleTypes.Inference.Sampled
/-!
# Findings — what inference has found so far

Inference stores a declaration for every object shape it meets and leaves a trace of what it did: it
met a shape whose name was taken, it filled a declaration, or it wrapped a value that is no object.
-/

set_option autoImplicit false

namespace SampleTypes

/-- A thing that happened during inference. -/
inductive InferenceEvent where
  /-- An object was met whose name belongs to a declaration already. -/
  | reused (name : Text)
  /-- The last field of a declaration was added. -/
  | filled (name : Text) (fields : Nat)
  /-- A declaration was made for a root that is no object. -/
  | wrapped (name : Text)
deriving DecidableEq, Repr

/-- The declarations found so far, and the trace. -/
structure Findings where
  shapes : Shapes := {}
  /-- What happened, the latest event first. -/
  trace : List InferenceEvent := []
deriving DecidableEq, Repr

namespace Findings

def note (findings : Findings) (event : InferenceEvent) : Findings :=
  { findings with trace := event :: findings.trace }

/-- The findings with a declaration of that name, which has no fields if it is new. -/
def declare (findings : Findings) (name : Text) : Findings :=
  { findings with shapes := findings.shapes.insertIfNew { name } }

def addField (findings : Findings) (name : Text) (field : Field) : Findings :=
  { findings with shapes := findings.shapes.addField name field }

/-- The findings after the last field of a declaration. -/
def noteFilled (findings : Findings) (name : Text) : Findings :=
  findings.note (.filled name ((findings.shapes.find? name).elim 0 (·.fields.length)))

/-- The events, in the order in which they happened. -/
def events (findings : Findings) : List InferenceEvent := findings.trace.reverse

end Findings

/-- How declarations are named during a run. -/
structure NamingStyle where
  convention : NamingConvention
  suffix : Text := []

namespace NamingStyle

/-- The name of a shape met under a hint. -/
def declarationName (style : NamingStyle) (hint : Text) (fromKey : Bool) : Text :=
  style.convention.declarationName style.suffix hint fromKey

/-- The scope of the fields of a new declaration. -/
def fieldScope (style : NamingStyle) : FieldScope := { reserved := style.convention.reserved }

end NamingStyle

end SampleTypes
