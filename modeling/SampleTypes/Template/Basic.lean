import SampleTypes.Json.Spelling
import SampleTypes.Text.Literal
/-!
# Templates

A template is literal text with *tags* in it: outputs, loops and conditions over the variables of a
context. Variables are strict: a tag that names something the context does not have makes rendering
fail, and nothing is put out in its place. Rendering follows the order of the template, so the first
missing name is the one that is reported.
-/

set_option autoImplicit false

namespace SampleTypes

/-- What a tag refers to: a variable, or a member of one. -/
structure Reference where
  root : Text
  /-- The members to follow from it, the outermost first. -/
  path : List Text := []
deriving DecidableEq, Repr

/-- How an output tag writes its value. -/
inductive OutputForm where
  | plain
  /-- The text of the value as a string literal. -/
  | literal
deriving DecidableEq, Repr

inductive TemplatePart where
  | text (content : Text)
  | output (source : Reference) (form : OutputForm)
  /-- The body once for each element of a value, which it knows under a name. -/
  | each (name : Text) (source : Reference) (body : List TemplatePart)
  /-- The body if a value counts as true. -/
  | when (condition : Reference) (body : List TemplatePart)
deriving Repr

abbrev Template := List TemplatePart

/-- The variables that a template is rendered with. -/
abbrev TemplateContext := List (Text × Json)

/-- Why rendering failed. -/
inductive RenderFault where
  | undefined (name : Text)
  /-- A value has no such member; `holder` says what kind of value it is. -/
  | noMember (holder : Text) (name : Text)
  | notIterable (holder : Text)
deriving DecidableEq, Repr

def RenderFault.message : RenderFault → Text
  | undefined name => ("'" : Text) ++ name ++ ("' is undefined" : Text)
  | noMember holder name => ("'" : Text) ++ holder ++ ("' has no attribute '" : Text) ++ name ++ ("'" : Text)
  | notIterable holder => ("'" : Text) ++ holder ++ ("' object is not iterable" : Text)

namespace Json

/-- The elements over which a loop goes: the items of an array, the code points of a string or the keys
of an object. -/
def elements? : Json → Option (List Json)
  | arr items => some items
  | str s => some (s.map fun c => str [c])
  | obj members => some (members.map fun member => str member.1)
  | _ => none

end Json

namespace Reference

/-- The variable of that name. -/
def named (name : Text) : Reference := { root := name }

/-- A member of a variable. -/
def member (name part : Text) : Reference := { root := name, path := [part] }

def follow (value : Json) : List Text → Except RenderFault Json
  | [] => .ok value
  | name :: path =>
    match value with
    | .obj members =>
      match Json.getMember? name members with
      | some value => follow value path
      | none => .error (.noMember "dict object" name)
    | .null => .error (.noMember "None" name)
    | value => .error (.noMember (value.kindName ++ (" object" : Text)) name)

/-- The value of a reference. -/
def resolve (context : TemplateContext) (reference : Reference) : Except RenderFault Json :=
  match Json.getMember? reference.root context with
  | some value => follow value reference.path
  | none => .error (.undefined reference.root)

end Reference

/-- What stands for a code point of a value inside a marked-up document. -/
def CodePoint.markupSafe : CodePoint → Text
  | .scalar '&' => "&amp;"
  | .scalar '<' => "&lt;"
  | .scalar '>' => "&gt;"
  | .scalar '\'' => "&#39;"
  | .scalar '"' => "&#34;"
  | c => [c]

/-- The text that an output tag puts out for a value. -/
def outputText (markup : Bool) (form : OutputForm) (value : Json) : Text :=
  let text := match form with
    | .plain => value.plain
    | .literal => value.plain.literal
  if markup then text.flatMap CodePoint.markupSafe else text

namespace Template

mutual

def renderPart (markup : Bool) (context : TemplateContext) : TemplatePart → Except RenderFault Text
  | .text content => .ok content
  | .output source form => do return outputText markup form (← source.resolve context)
  | .each name source body => do
    let value ← source.resolve context
    match value.elements? with
    | some elements =>
      return (← elements.mapM fun element => render markup ((name, element) :: context) body).flatten
    | none => throw (.notIterable value.kindName)
  | .when condition body => do
    if (← condition.resolve context).isTruthy then render markup context body else return []

/-- The text of a template in a context. `markup` says that values are escaped for a document with
markup. -/
def render (markup : Bool) (context : TemplateContext) : List TemplatePart → Except RenderFault Text
  | [] => .ok []
  | part :: parts => do
    let text ← renderPart markup context part
    return text ++ (← render markup context parts)

end

end Template

end SampleTypes
