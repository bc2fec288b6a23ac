import SampleTypes.Generation.Schema
import SampleTypes.Schema.Warnings
import SampleTypes.Target.Code
/-!
# From a sample to code

A `Generator` is a target with its settings. It turns a sample into one document, or into a set of
files with one declaration each; both are made from the same schema.
-/

set_option autoImplicit false

namespace SampleTypes

/-- A target with its settings. -/
structure Generator where
  target : Target
  settings : Settings

/-- What is generated from, beside the sample's text. -/
structure RootNaming where
  rootName : Text
  suffix : Text := []
deriving DecidableEq, Repr

/-- Why no code could be generated. -/
inductive GenerationError where
  | sample (error : SampleError)
  | code (error : CodeError)
deriving DecidableEq, Repr

def GenerationError.message : GenerationError → Text
  | sample error => error.message
  | code error => error.message

structure GeneratedFile where
  name : Text
  content : Text
deriving DecidableEq, Repr

namespace Generator

def style (generator : Generator) (suffix : Text) : NamingStyle :=
  { convention := generator.target.convention, suffix }

def schema (generator : Generator) (naming : RootNaming) (text : List Char) :
    Except GenerationError Schema :=
  match Schema.infer (generator.style naming.suffix) naming.rootName text with
  | .ok schema => .ok schema
  | .error error => .error (.sample error)

def documentOf (generator : Generator) (schema : Schema) : Except GenerationError Text :=
  match generator.target.document generator.settings schema.declarations with
  | .ok code => .ok code
  | .error error => .error (.code error)

def fileOf (generator : Generator) (d : Declaration) : Except CodeError GeneratedFile := do
  return ⟨generator.target.fileName d, ← generator.target.file generator.settings d⟩

def filesOf (generator : Generator) (schema : Schema) : Except GenerationError (List GeneratedFile) :=
  match schema.declarations.mapM generator.fileOf with
  | .ok files => .ok files
  | .error error => .error (.code error)

/-- The document for a sample. -/
def document (generator : Generator) (naming : RootNaming) (text : List Char) :
    Except GenerationError Text := do
  generator.documentOf (← generator.schema naming text)

/-- The set of files for a sample. -/
def fileSet (generator : Generator) (naming : RootNaming) (text : List Char) :
    Except GenerationError (List GeneratedFile) := do
  generator.filesOf (← generator.schema naming text)

end Generator

end SampleTypes
