import SampleTypes.Target.Basic
import SampleTypes.Template.Library
/-!
# The templates of the targets

An interface file is one template. A class file is put together from two: the header with the package
and the imports, which a document has once, and the class.
-/

set_option autoImplicit false

namespace SampleTypes

namespace TemplatePart

/-- The value of a variable. -/
def value (name : Text) : TemplatePart := .output (.named name) .plain

def valueOf (name part : Text) : TemplatePart := .output (.member name part) .plain

end TemplatePart

namespace Target

open TemplatePart

/-- An interface, with the imports of its file before it. -/
def interfaceTemplate : Template :=
  [.each "dependency" (.named "imports")
    [.text "import \x7b ", value "dependency", .text " \x7d from './", value "dependency",
     .text "';\n"],
   .when (.named "imports") [.text "\n"],
   .when (.named "export") [.text "export "],
   .text "interface ", value "name", .text " \x7b\n",
   .each "field" (.named "fields")
    [value "indent", valueOf "field" "name", .text ": ", valueOf "field" "type", .text ";\n"],
   .text "\x7d"]

/-- The header of a document with classes. -/
def headerTemplate : Template :=
  [.text "package ", value "package_name", .text ";\n\n",
   .each "statement" (.named "imports") [.text "import ", value "statement", .text ";\n"]]

/-- A class with its annotations. -/
def classTemplate : Template :=
  [.each "annotation" (.named "annotations") [.text "@", value "annotation", .text "\n"],
   .text "public class ", value "name", .text " \x7b\n",
   .each "field" (.named "fields")
    [.text "\n", value "indent", .text "@JsonProperty(",
     .output (.member "field" "original_name") .literal, .text ")\n",
     value "indent", .text "private ", valueOf "field" "type", .text " ", valueOf "field" "name",
     .text ";\n"],
   .text "\n\x7d"]

/-- The name of `interfaceTemplate`. -/
def interfaceTemplateName : Text := "interface.ts.j2"

/-- The name of `headerTemplate`. -/
def headerTemplateName : Text := "header.java.j2"

/-- The name of `classTemplate`. -/
def classTemplateName : Text := "class.java.j2"

def templates : Target → TemplateLibrary
  | typescript => .shipped [(interfaceTemplateName, interfaceTemplate)]
  | java => .shipped [(headerTemplateName, headerTemplate), (classTemplateName, classTemplate)]

end Target

end SampleTypes
