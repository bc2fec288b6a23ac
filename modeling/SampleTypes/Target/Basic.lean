import SampleTypes.Naming.Convention
import SampleTypes.Schema.FieldType
/-!
# Target languages

The languages in which declarations can be written, and what each of them lays down: how declarations
are named, how types are spelled, and how files are called.
-/

set_option autoImplicit false

namespace SampleTypes

/-- A language in which declarations are written. -/
inductive Target where
  /-- Interfaces in TypeScript. -/
  | typescript
  /-- Data classes in Java. -/
  | java
deriving DecidableEq, Repr, Inhabited

namespace Target

/-- The words that no field of a Java class may be named. -/
def javaReserved : List Text :=
  List.map Text.ofString
  ["abstract", "assert", "boolean", "break", "byte", "case", "catch", "char", "class", "const",
   "continue", "default", "do", "double", "else", "enum", "extends", "false", "final", "finally",
   "float", "for", "goto", "if", "implements", "import", "instanceof", "int", "interface", "long",
   "native", "new", "null", "package", "private", "protected", "public", "return", "short", "static",
   "strictfp", "super", "switch", "synchronized", "this", "throw", "throws", "transient", "true",
   "try", "void", "volatile", "while", "_"]

/-- The name of the language. -/
def name : Target → Text
  | typescript => "typescript"
  | java => "java"

/-- The name of its generator, as listings show it. -/
def generatorName : Target → Text
  | typescript => "TypeScriptGenerator"
  | java => "JavaGenerator"

/-- The end of the names of its files. -/
def fileEnding : Target → Text
  | typescript => ".ts"
  | java => ".java"

/-- The naming convention: an interface starts with `I`, a data class ends in `Dto`. -/
def convention : Target → NamingConvention
  | typescript => { lead := "I" }
  | java => { trail := "Dto", reserved := javaReserved }

/-- The pattern of declaration names, with a star for what varies. -/
def namePattern (target : Target) : Text :=
  target.convention.lead ++ ("*" : Text) ++ target.convention.trail

def listText (target : Target) (element : Text) : Text :=
  match target with
  | typescript => element ++ ("[]" : Text)
  | java => ("List<" : Text) ++ element ++ (">" : Text)

/-- The spelling of a type. TypeScript has one type of numbers; in Java the sampled number decides
between the two. -/
def typeText (target : Target) : FieldType → Text
  | .list element => target.listText (target.typeText element)
  | .ref name => name
  | .string => match target with
    | typescript => "string"
    | java => "String"
  | .number integral => match target, integral with
    | typescript, _ => "number"
    | java, true => "Long"
    | java, false => "Double"
  | .boolean => match target with
    | typescript => "boolean"
    | java => "Boolean"
  | .any => match target with
    | typescript => "any"
    | java => "Object"

end Target

end SampleTypes
