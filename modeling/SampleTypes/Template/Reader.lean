import SampleTypes.Template.Basic
/-!
# Reading templates

The source of a template writes outputs as `{{ name }}` or `{{ name|java_string }}`, conditions as
`{% if name %}` up to `{% endif %}` and loops as `{% for x in name %}` up to `{% endfor %}`; a name may
be followed by members with dots between them. The line end right after a tag between percent signs
belongs to the tag, and so do the blanks between the start of its line and the tag. One line end at the
end of the source is dropped.

The source is cut into tokens first. The parts are then put together with a stack of the tags that are
still open.
-/

set_option autoImplicit false

namespace SampleTypes

/-- What is wrong with the source of a template. -/
inductive TemplateSyntaxFault where
  | missingExpression
  | openCondition
  | openLoop
  | strayEnd (tag : Text)
  | unknownTag (content : Text)
deriving DecidableEq, Repr

/-- The wording for a tag that is not closed: what could close it, and what it is called. -/
def unfinishedMessage (closings tag : Text) : Text :=
  ("Unexpected end of template. Jinja was looking for the following tags: " : Text) ++ closings
    ++ (". The innermost block that needs to be closed is " : Text) ++ tag ++ ("." : Text)

def TemplateSyntaxFault.message : TemplateSyntaxFault → Text
  | missingExpression => "Expected an expression, got 'end of print statement'"
  | openCondition => unfinishedMessage "'elif' or 'else' or 'endif'" "'if'"
  | openLoop => unfinishedMessage "'endfor' or 'else'" "'for'"
  | strayEnd tag => ("Encountered unknown tag '" : Text) ++ tag ++ ("'." : Text)
  | unknownTag content => ("Encountered unknown tag '" : Text) ++ content ++ ("'." : Text)

namespace TemplateReader

/-- A piece of the source. -/
inductive TokenKind where
  /-- Literal text. -/
  | text
  /-- What stands between double braces. -/
  | output
  /-- What stands between braces with percent signs. -/
  | block
deriving DecidableEq, Repr

/-- A piece of the source with the line on which it starts. -/
structure Token where
  kind : TokenKind
  /-- The characters of the text, or those inside the tag. -/
  content : List Char
  /-- The line, counted from one. -/
  line : Nat
deriving Repr

/-- A state of cutting the source into tokens. -/
structure Cutting where
  /-- The tokens so far, the last one first. -/
  tokens : List Token := []
  kind : TokenKind := .text
  /-- The characters of the piece that is being read, the last one first. -/
  piece : List Char := []
  /-- The line on which the piece starts. -/
  start : Nat := 1
  /-- The line that has been reached. -/
  line : Nat := 1
  /-- Whether a line end that comes next belongs to the tag before it. -/
  trimming : Bool := false

/-- Whether a character is a blank within a line. -/
def isIndent (c : Char) : Bool := c = ' ' || c = '\t'

/-- A piece of text, last character first, without the blanks between the start of the last line and the
end. `atStart` says that the piece starts a line. -/
def dropIndent (atStart : Bool) (piece : List Char) : List Char :=
  match piece.dropWhile isIndent with
  | [] => if atStart then [] else piece
  | c :: rest => if c = '\n' then c :: rest else piece

/-- Ends the piece that is being read and starts one of another kind. -/
def Cutting.turn (cutting : Cutting) (kind : TokenKind) : Cutting :=
  let piece := if kind = .block then dropIndent cutting.tokens.isEmpty cutting.piece
    else cutting.piece
  let token : Token := ⟨cutting.kind, piece.reverse, cutting.start⟩
  { cutting with
    tokens := if cutting.kind = .text && piece.isEmpty then cutting.tokens
      else token :: cutting.tokens
    kind
    piece := []
    start := cutting.line
    -- The piece that ends here is the tag whose line end is dropped.
    trimming := cutting.kind == .block }

/-- Reads one character into the piece. -/
def Cutting.take (cutting : Cutting) (c : Char) : Cutting :=
  let line := if c = '\n' then cutting.line + 1 else cutting.line
  -- A line end that is dropped still counts as one.
  if cutting.trimming && c = '\n' then { cutting with line, start := line, trimming := false }
  else { cutting with piece := c :: cutting.piece, line, trimming := false }

/-- Cuts the source into tokens. -/
def cut (cutting : Cutting) : List Char → List Token
  | [] => (cutting.turn .text).tokens.reverse
  | '\x7b' :: '\x7b' :: cs =>
    if cutting.kind = .text then cut (cutting.turn .output) cs
    -- Inside a tag nothing has a meaning but what ends that kind of tag.
    else cut ((cutting.take '\x7b').take '\x7b') cs
  | '\x7b' :: '%' :: cs =>
    if cutting.kind = .text then cut (cutting.turn .block) cs
    else cut ((cutting.take '\x7b').take '%') cs
  | '\x7d' :: '\x7d' :: cs =>
    if cutting.kind = .output then cut (cutting.turn .text) cs
    else cut ((cutting.take '\x7d').take '\x7d') cs
  | '%' :: '\x7d' :: cs =>
    if cutting.kind = .block then cut (cutting.turn .text) cs
    else cut ((cutting.take '%').take '\x7d') cs
  | c :: cs => cut (cutting.take c) cs

/-- The characters cut at every occurrence of those for which a test holds; empty pieces are dropped. -/
def piecesAt (test : Char → Bool) (cs : List Char) : List (List Char) :=
  let (piece, later) := cs.foldr (fun c (piece, later) =>
    if test c then ([], piece :: later) else (c :: piece, later))
    (([] : List Char), ([] : List (List Char)))
  (piece :: later).filter fun piece => !piece.isEmpty

def tagWords (content : List Char) : List (List Char) := piecesAt (fun c => isIndent c || c = '\n') content

def reference? (word : List Char) : Option Reference :=
  match piecesAt (· = '.') word with
  | [] => none
  | root :: path => some { root := Text.ofChars root, path := path.map Text.ofChars }

/-- The part that an output tag writes. -/
def outputPart (content : List Char) : Except TemplateSyntaxFault TemplatePart :=
  -- The bar is a word of its own, with blanks around it or without.
  match tagWords (content.flatMap fun c => if c = '|' then [' ', '|', ' '] else [c]) with
  | [] => .error .missingExpression
  | [word] =>
    match reference? word with
    | some source => .ok (.output source .plain)
    | none => .error .missingExpression
  | [word, ['|'], filter] =>
    match reference? word, filter == "java_string".toList with
    | some source, true => .ok (.output source .literal)
    | _, _ => .error (.unknownTag (Text.ofChars content))
  | _ => .error (.unknownTag (Text.ofChars content))

/-- A tag that is still open, with the parts before it, the last one first. -/
inductive OpenTag where
  | when (condition : Reference) (before : List TemplatePart)
  | each (name : Text) (source : Reference) (before : List TemplatePart)

/-- A state of putting parts together. -/
structure Assembly where
  /-- The open tags, the innermost first. -/
  opened : List OpenTag := []
  /-- The parts inside the innermost one so far, the last one first. -/
  parts : List TemplatePart := []
  /-- The line of the last token. -/
  line : Nat := 1

/-- Takes a tag between percent signs. -/
def Assembly.takeBlock (assembly : Assembly) (content : List Char) :
    Except TemplateSyntaxFault Assembly :=
  let unknown : Except TemplateSyntaxFault Assembly := .error (.unknownTag (Text.ofChars content))
  match (tagWords content).map String.ofList with
  | ["if", word] =>
    match reference? word.toList with
    | some condition =>
      .ok { assembly with opened := .when condition assembly.parts :: assembly.opened, parts := [] }
    | none => unknown
  | ["for", name, "in", word] =>
    match reference? word.toList with
    | some source =>
      .ok { assembly with opened := .each name source assembly.parts :: assembly.opened, parts := [] }
    | none => unknown
  | ["endif"] =>
    match assembly.opened with
    | .when condition before :: opened =>
      .ok { assembly with opened, parts := .when condition assembly.parts.reverse :: before }
    | _ => .error (.strayEnd "endif")
  | ["endfor"] =>
    match assembly.opened with
    | .each name source before :: opened =>
      .ok { assembly with opened, parts := .each name source assembly.parts.reverse :: before }
    | _ => .error (.strayEnd "endfor")
  | _ => unknown

/-- Takes a token. A fault is given with its line. -/
def Assembly.take (assembly : Assembly) (token : Token) :
    Except (Nat × TemplateSyntaxFault) Assembly :=
  let assembly := { assembly with line := token.line }
  match token.kind with
  | .text => .ok { assembly with parts := .text (Text.ofChars token.content) :: assembly.parts }
  | .output =>
    match outputPart token.content with
    | .ok part => .ok { assembly with parts := part :: assembly.parts }
    | .error fault => .error (token.line, fault)
  | .block =>
    match assembly.takeBlock token.content with
    | .ok assembly => .ok assembly
    | .error fault => .error (token.line, fault)

/-- The template when all tokens are taken. -/
def Assembly.finish (assembly : Assembly) : Except (Nat × TemplateSyntaxFault) Template :=
  match assembly.opened with
  | [] => .ok assembly.parts.reverse
  | .when .. :: _ => .error (assembly.line, .openCondition)
  | .each .. :: _ => .error (assembly.line, .openLoop)

end TemplateReader

def dropLastLineEnd (source : List Char) : List Char :=
  if source.getLast? = some '\n' then source.dropLast else source

/-- Reads the source of a template. A fault is given with its line. -/
def Template.ofSource (source : List Char) : Except (Nat × TemplateSyntaxFault) Template := do
  let assembly ← (TemplateReader.cut {} (dropLastLineEnd source)).foldlM TemplateReader.Assembly.take {}
  assembly.finish

end SampleTypes
