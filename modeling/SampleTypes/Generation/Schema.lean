import SampleTypes.Emission.Order
import SampleTypes.Generation.Sample
import SampleTypes.Inference.Walk
import SampleTypes.Log
/-!
# The schema of a sample

The declarations inferred from one sample, in the order in which they are emitted, with the name of the
root's declaration. Every run starts without declarations, so runs share nothing.
-/

set_option autoImplicit false

namespace SampleTypes

structure Schema where
  rootName : Text
  /-- The declarations, each after those it refers to. -/
  declarations : List Declaration
  /-- The references that the order leaves out of account, as they would close a cycle. -/
  skipped : List Edge
  /-- What happened during inference. -/
  events : List InferenceEvent
deriving DecidableEq, Repr

namespace Schema

def ofValue (style : NamingStyle) (rootName : Text) (value : Json) : Schema :=
  let (root, findings) := inferRoot style value rootName {}
  let emission := findings.shapes.emission
  ⟨root, emission.declarations, emission.skipped, findings.events⟩

/-- The schema of a sample. The name of the root is looked at before the text. -/
def infer (style : NamingStyle) (rootName : Text) (text : List Char) : Except SampleError Schema :=
  if rootName.isBlank then .error .blankRootName
  else do return ofValue style rootName (← readSample text)

def root? (schema : Schema) : Option Declaration :=
  schema.declarations.find? fun d => d.name == schema.rootName

def names (schema : Schema) : List Text := schema.declarations.map (·.name)

end Schema

def InferenceEvent.record : InferenceEvent → LogRecord
  | reused name => .debug (("Reusing declaration " : Text) ++ name)
  | filled name fields =>
    .debug (("Registered declaration " : Text) ++ name ++ (" with " : Text)
      ++ (toString fields : Text) ++ (" field(s)" : Text))
  | wrapped name => .debug (("Wrapped non-object root in declaration " : Text) ++ name)

/-- The log record of a reference that the order leaves out of account. -/
def skippedRecord (edge : Edge) : LogRecord :=
  .debug (("Skipping cyclic edge " : Text) ++ edge.1 ++ (" -> " : Text) ++ edge.2)

def Schema.records (schema : Schema) (language : Text) : List LogRecord :=
  schema.events.map InferenceEvent.record ++ schema.skipped.map skippedRecord ++
    [.debug (("Inferred " : Text) ++ (toString schema.declarations.length : Text)
      ++ (" declaration(s) for " : Text) ++ language ++ (" (root " : Text) ++ schema.rootName
      ++ (")" : Text))]

end SampleTypes
