import SampleTypes.Console.Columns
import SampleTypes.Console.Emoji
import SampleTypes.Console.Style
/-!
# Marked-up console text

Text for the console carries tags in brackets, such as `[red]` and `[/red]`, which are shown as a style
and not as text. A tag opens a style, or closes the innermost open one with the same normal form; `[/]`
closes the innermost one whatever it is, and a style that stays open ends with the text. A backslash before
a tag makes it text; two stand for one. Names of emoji between colons are shown as emoji, and tabs as
spaces. `Markup.escape` prepares a text so that none of it is taken as a tag.
-/

set_option autoImplicit false

namespace SampleTypes.Markup

/-- The backslash, which takes the meaning of a tag away. -/
def backslash : CodePoint := .scalar '\\'

/-- The bracket with which a tag starts. -/
def opening : CodePoint := .scalar '['

/-- The bracket with which a tag ends. -/
def closing : CodePoint := .scalar ']'

/-- Whether a code point may follow the opening bracket of a tag. -/
def startsTag : CodePoint → Bool
  | .scalar c => c.isLower || c = '#' || c = '/' || c = '@'
  | .surrogate _ => false

/-- The tag with which a text starts, and the text after it. A tag holds no opening bracket but its
own. -/
def tag? : Text → Option (Text × Text)
  | bracket :: c :: t =>
    if bracket = opening && startsTag c then
      let content := t.takeWhile fun c => c != opening && c != closing
      match t.drop content.length with
      | last :: rest =>
        if last = closing then some (bracket :: c :: content ++ [closing], rest) else none
      | [] => none
    else none
  | _ => none

/-- A piece of a marked-up text. -/
inductive Piece where
  | text (content : Text)
  | tag (backslashes : Nat) (content : Text)
deriving DecidableEq, Repr

/-- Cuts a text into pieces. `before` holds the text since the last tag, the last code point first; the
length of the text is fuel enough. -/
def cut (fuel : Nat) (before : Text) (t : Text) : List Piece :=
  match fuel, t with
  | 0, _ | _, [] => [.text before.reverse]
  | fuel + 1, c :: t =>
    let slashes := (c :: t).takeWhile (· == backslash)
    match tag? ((c :: t).drop slashes.length) with
    | some (tag, rest) => .text before.reverse :: .tag slashes.length tag :: cut fuel [] rest
    | none =>
      -- Backslashes before something that is no tag are text, and are passed over together.
      if slashes.isEmpty then cut fuel (c :: before) t
      else cut fuel (slashes ++ before) ((c :: t).drop slashes.length)

def pieces (t : Text) : List Piece := cut (2 * t.length + 1) [] t

/-- A text with a backslash dropped before every opening bracket. -/
def dropBackslashes : Text → Text
  | a :: b :: t =>
    if a = backslash && b = opening then opening :: dropBackslashes t
    else a :: dropBackslashes (b :: t)
  | t => t

/-- Whether a code point is one of the control codes that the console never shows. -/
def isControl : CodePoint → Bool
  | .scalar c => c = '\x07' || c = '\x08' || c = '\x0b' || c = '\x0c' || c = '\r'
  | .surrogate _ => false

/-- Why a marked-up text cannot be shown. -/
inductive Fault where
  | notOpen (tag : Text) (position : Nat)
  | nothingOpen (position : Nat)
  | color (fault : ColorFault)
deriving DecidableEq, Repr

def Fault.message : Fault → Text
  | notOpen tag position =>
    ("closing tag '" : Text) ++ tag ++ ("' at position " : Text) ++ (toString position : Text)
      ++ (" doesn't match any open tag" : Text)
  | nothingOpen position =>
    ("closing tag '[/]' at position " : Text) ++ (toString position : Text)
      ++ (" has nothing to close" : Text)
  | color fault => fault.message

/-- The name in a tag: what stands between the brackets, up to the first equals sign. -/
def tagName (tag : Text) : Text := ((tag.drop 1).dropLast).takeWhile (· != .scalar '=')

/-- The normal form of a style by which tags are matched. -/
def normalName (name : Text) : Except Fault Text :=
  match ConsoleStyle.normalForm name with
  | .ok name => .ok name
  | .error fault => .error (.color fault)

/-- The styles that are open after a tag, the innermost first. -/
def followTag (opened : List Text) (tag : Text) (position : Nat) : Except Fault (List Text) :=
  match tagName tag with
  | .scalar '/' :: name =>
    let name := Text.trim name
    if name.isEmpty then
      match opened with
      | _ :: opened => .ok opened
      | [] => .error (.nothingOpen position)
    else do
      let name ← normalName name
      -- Styles that were opened since stay open; tags need not be closed in order.
      if opened.contains name then .ok (opened.erase name) else .error (.notOpen tag position)
  | name => do return (← normalName name) :: opened

/-- What the console shows of a text without tags. -/
def shownText (t : Text) : Text := Emoji.replaceNames (dropBackslashes t)

/-- What the console shows of pieces from a position on, with styles open. -/
def shownFrom (opened : List Text) (position : Nat) : List Piece → Except Fault Text
  | [] => .ok []
  | .text content :: pieces => do
    return shownText content ++ (← shownFrom opened (position + content.length) pieces)
  | .tag backslashes content :: pieces => do
    let next := position + backslashes + content.length
    -- Every two backslashes show as one. One that is left over makes the tag text.
    let kept := List.replicate (backslashes / 2) backslash
    if backslashes % 2 = 1 then
      return kept ++ shownText content ++ (← shownFrom opened next pieces)
    else
      let opened ← followTag opened content (position + backslashes)
      return kept ++ (← shownFrom opened next pieces)

/-- What the console shows of a marked-up text. -/
def plain (t : Text) : Except Fault Text := do
  let shown ← shownFrom [] 0 (pieces t)
  return Text.expandTabs (shown.filter fun c => !isControl c)

/-- A piece as a text in which it is no tag. -/
def Piece.escaped : Piece → Text
  | text content => content
  | tag backslashes content => List.replicate (2 * backslashes + 1) backslash ++ content

/-- A text prepared so that none of it is taken as a tag. A single backslash at its end is doubled, as
the text may be followed by a tag. -/
def escape (t : Text) : Text :=
  let escaped := (pieces t).flatMap Piece.escaped
  match escaped.reverse with
  | [last] => if last = backslash then escaped ++ [backslash] else escaped
  | last :: previous :: _ =>
    if last = backslash && previous != backslash then escaped ++ [backslash] else escaped
  | [] => escaped

end SampleTypes.Markup
