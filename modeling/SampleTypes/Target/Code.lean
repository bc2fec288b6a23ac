import SampleTypes.Schema.Declaration
import SampleTypes.Settings.Basic
import SampleTypes.Target.Templates
import SampleTypes.Text.Lines
/-!
# Code in a target language

Declarations are written either all into one document or each into a file of its own. A document is
the header, if the language has one, and the units of the declarations, with a blank line between
them. A file with a class is the document of that class alone; a file with an interface has the
interfaces it refers to imported instead.
-/

set_option autoImplicit false

namespace SampleTypes

/-- Why code could not be generated. -/
inductive CodeError where
  | template (error : TemplateError)
  | indent (fault : IndentFault)
deriving DecidableEq, Repr

def CodeError.message : CodeError → Text
  | template error => error.message
  | indent fault => fault.message

namespace Target

def render (target : Target) (name : Text) (context : TemplateContext) : Except CodeError Text :=
  match target.templates.render name context with
  | .ok code => .ok code
  | .error error => .error (.template error)

/-- One level of indentation. -/
def indentOf (settings : Settings) : Except CodeError Text :=
  match settings.indent with
  | .ok indent => .ok indent
  | .error fault => .error (.indent fault)

def textValues (ts : List Text) : Json := .arr (ts.map .str)

/-! ## Interfaces -/

def interfaceContext (settings : Settings) (indent : Text) (d : Declaration) (imports : List Text) :
    TemplateContext :=
  [("name", .str d.name), ("export", .bool settings.exportDeclarations),
   ("indent", .str indent), ("imports", textValues imports),
   ("fields", .arr (d.fields.map fun field =>
      .obj [("name", .str field.name), ("type", .str (typescript.typeText field.type))]))]

/-- An interface in a file with the given imports. -/
def interfaceCode (settings : Settings) (d : Declaration) (imports : List Text) :
    Except CodeError Text := do
  let indent ← indentOf settings
  typescript.render interfaceTemplateName (interfaceContext settings indent d imports)

/-- The names that the file of an interface imports: those it refers to, without its own. -/
def interfaceImports (d : Declaration) : List Text := d.dependencies.filter (· != d.name)

/-! ## Classes -/

/-- The package of classes when the settings name none. -/
def defaultPackage : Text := "com.example.dto"

/-- The package of the generated classes. -/
def packageOf (settings : Settings) : Text :=
  if settings.packageName.isEmpty then defaultPackage else settings.packageName

/-- The policy for included properties, unless there is none. -/
def policyOf (settings : Settings) : Option Text :=
  settings.jsonInclude.filter fun policy => !policy.isEmpty

/-- The imports that the annotation for included properties needs. -/
def includeImports : List Text :=
  ["com.fasterxml.jackson.annotation.JsonInclude",
   "com.fasterxml.jackson.annotation.JsonInclude.Include"]

/-- The import that the annotation of a field needs. -/
def propertyImport : Text := "com.fasterxml.jackson.annotation.JsonProperty"

/-- The imports that the annotations in place of boilerplate need. -/
def lombokImports : List Text :=
  ["lombok.AllArgsConstructor", "lombok.Builder", "lombok.Data", "lombok.NoArgsConstructor"]

/-- The import that a field with a list needs. -/
def listImport : Text := "java.util.List"

/-- What a header for the given declarations imports. -/
def classImports (settings : Settings) (ds : List Declaration) : List Text :=
  (if (policyOf settings).isSome then includeImports else []) ++ [propertyImport] ++
    (if settings.useLombok then lombokImports else []) ++
    if ds.any Declaration.usesLists then [listImport] else []

/-- The annotations in place of boilerplate. -/
def lombokAnnotations : List Text := ["Data", "AllArgsConstructor", "NoArgsConstructor", "Builder"]

def includeAnnotation (policy : Text) : Text :=
  ("JsonInclude(Include." : Text) ++ policy ++ (")" : Text)

def classAnnotations (settings : Settings) : List Text :=
  (if settings.useLombok then lombokAnnotations else []) ++
    ((policyOf settings).map includeAnnotation).toList

def headerContext (settings : Settings) (ds : List Declaration) : TemplateContext :=
  [("package_name", .str (packageOf settings)), ("imports", textValues (classImports settings ds))]

def classContext (settings : Settings) (indent : Text) (d : Declaration) : TemplateContext :=
  [("name", .str d.name), ("indent", .str indent),
   ("annotations", textValues (classAnnotations settings)),
   ("fields", .arr (d.fields.map fun field =>
      .obj [("name", .str field.name), ("original_name", .str field.key),
        ("type", .str (java.typeText field.type))]))]

/-! ## Documents and files -/

/-- What stands before the declarations of a document. -/
def header (target : Target) (settings : Settings) (ds : List Declaration) :
    Except CodeError Text :=
  match target with
  | typescript => .ok []
  | java => java.render headerTemplateName (headerContext settings ds)

/-- The code of one declaration, without anything around it. -/
def unit (target : Target) (settings : Settings) (d : Declaration) : Except CodeError Text :=
  match target with
  -- Within a document nothing has to be imported.
  | typescript => interfaceCode settings d []
  | java => do
    let indent ← indentOf settings
    java.render classTemplateName (classContext settings indent d)

/-- What stands between two units of a document. -/
def unitSeparator : Text := "\n\n"

def document (target : Target) (settings : Settings) (ds : List Declaration) :
    Except CodeError Text := do
  let header ← target.header settings ds
  let units ← ds.mapM (target.unit settings)
  return (Text.join unitSeparator ((header :: units).filter fun unit => !unit.isEmpty)).tidy

def file (target : Target) (settings : Settings) (d : Declaration) : Except CodeError Text :=
  match target with
  | typescript => do return (← interfaceCode settings d (interfaceImports d)).tidy
  -- The classes are in one package, where they know each other without imports.
  | java => java.document settings [d]

def fileName (target : Target) (d : Declaration) : Text := d.name ++ target.fileEnding

end Target

end SampleTypes
