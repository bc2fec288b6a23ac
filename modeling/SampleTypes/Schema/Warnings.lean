import SampleTypes.Schema.Declaration
/-!
# What a schema's author should know

A sample does not tell everything: an object may be empty, a field may be `null` or an empty array, and
a key may be no name in the target language. Each is worth a warning; code is generated all the same.
-/

set_option autoImplicit false

namespace SampleTypes

/-- Something about a declaration that its author should know. -/
inductive SchemaWarning where
  | noFields (declaration : Text)
  /-- The sample says nothing about the type of a field. -/
  | untyped (declaration field : Text)
  | renamed (declaration key field : Text)
deriving DecidableEq, Repr

def SchemaWarning.message : SchemaWarning → Text
  | noFields declaration => ("Declaration '" : Text) ++ declaration ++ ("' has no fields" : Text)
  | untyped declaration field =>
    ("Untyped field " : Text) ++ declaration ++ ("." : Text) ++ field
      ++ (": sample was null or an empty array" : Text)
  | renamed declaration key field =>
    ("Field " : Text) ++ declaration ++ ("." : Text) ++ key ++ (" renamed to " : Text) ++ field

namespace Declaration

def fieldWarnings (declaration : Text) (field : Field) : List SchemaWarning :=
  (if field.type.element = .any then [.untyped declaration field.name] else []) ++
    if field.name = field.key then [] else [.renamed declaration field.key field.name]

def warnings (d : Declaration) : List SchemaWarning :=
  (if d.fields.isEmpty then [.noFields d.name] else []) ++ d.fields.flatMap (fieldWarnings d.name)

end Declaration

def schemaWarnings (ds : List Declaration) : List SchemaWarning := ds.flatMap Declaration.warnings

end SampleTypes
