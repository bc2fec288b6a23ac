import SampleTypes.Files.Tree
import SampleTypes.Template.Reader
import SampleTypes.Text.LowerCase
/-!
# Template libraries

A library finds templates by name: among those that come with a target, or in a directory. A name may
lead into subdirectories but never out of the library. The values of a template whose name ends in
`.html` or `.xml` are escaped for markup.
-/

set_option autoImplicit false

namespace SampleTypes

inductive TemplateLibrary where
  | shipped (templates : List (Text × Template))
  | directory (files : FileTree) (path : FilePath)

/-- Why a template gave no text. -/
inductive TemplateError where
  | notFound (name : Text)
  | invalid (name : Text) (line : Nat) (fault : TemplateSyntaxFault)
  | unreadable (fault : ReadFault)
  | failed (name : Text) (fault : RenderFault)
deriving DecidableEq, Repr

def TemplateError.message : TemplateError → Text
  | notFound name => ("Template not found: " : Text) ++ name
  | invalid name line fault =>
    ("Invalid template " : Text) ++ name ++ (" (line " : Text) ++ (toString line : Text)
      ++ ("): " : Text) ++ fault.message
  | unreadable fault => fault.message
  | failed name fault =>
    ("Failed to render template " : Text) ++ name ++ (": " : Text) ++ fault.message

namespace TemplateLibrary

/-- The library of a directory. One that is not there, or none at all, has no templates. -/
def ofDirectory (files : FileTree) (path : Option FilePath) : TemplateLibrary :=
  match path with
  | some path => if files.isDirectory path then .directory files path else .shipped []
  | none => .shipped []

/-- The components of a template's name, unless it leads upwards. -/
def nameParts? (name : Text) : Option (List Text) :=
  let parts := FilePath.partsOf name
  if parts.contains FilePath.above then none else some parts

def find (library : TemplateLibrary) (name : Text) : Except TemplateError Template :=
  match nameParts? name with
  | none => .error (.notFound name)
  | some parts =>
    match library with
    | .shipped templates =>
      match templates.find? fun template => [template.1] == parts with
      | some template => .ok template.2
      | none => .error (.notFound name)
    | .directory files path =>
      match files.readText { path with parts := path.parts ++ parts } with
      | .ok source =>
        match Template.ofSource source with
        | .ok template => .ok template
        | .error (line, fault) => .error (.invalid name line fault)
      | .error (.file ..) => .error (.notFound name)
      | .error fault => .error (.unreadable fault)

/-- Whether there is a template of that name. One whose source is wrong is an error. -/
def contains (library : TemplateLibrary) (name : Text) : Except TemplateError Bool :=
  match library.find name with
  | .ok _ => .ok true
  | .error (.notFound _) => .ok false
  | .error error => .error error

/-- Whether the values of a template are escaped for markup. -/
def isMarkup (name : Text) : Bool :=
  let name := name.lowerCase
  List.isSuffixOf (".html" : Text) name || List.isSuffixOf (".xml" : Text) name

def render (library : TemplateLibrary) (name : Text) (context : TemplateContext) :
    Except TemplateError Text := do
  let template ← library.find name
  match Template.render (isMarkup name) context template with
  | .ok text => .ok text
  | .error fault => .error (.failed name fault)

end TemplateLibrary

end SampleTypes
