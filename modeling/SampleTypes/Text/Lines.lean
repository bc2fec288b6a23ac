import SampleTypes.Text.Blank
import SampleTypes.Text.Split
/-!
# Lines — the layout of generated code

Generated code is put together from pieces, each with its own line ends. `Text.tidy` gives the whole
its layout: no line ends in white space, no two blank lines follow each other, and none stands at
either end.
-/

set_option autoImplicit false

namespace SampleTypes

def CodePoint.lineFeed : CodePoint := .scalar '\n'

namespace Text

/-- The lines of a text: what stands before, between and after its line feeds. A text without a line
feed is one line. -/
def lines (t : Text) : List Text := t.splitOn .lineFeed

def ofLines (ls : List Text) : Text := join [.lineFeed] ls

/-- Keeps one line of every run of empty lines. -/
def squeeze (ls : List Text) : List Text :=
  ls.foldr (fun l kept => if l.isEmpty && kept.head? == some [] then kept else l :: kept) []

/-- The lines without the empty ones at the start and at the end. -/
def trimLines (ls : List Text) : List Text :=
  ((ls.dropWhile List.isEmpty).reverse.dropWhile List.isEmpty).reverse

/-- The text with its final layout. -/
def tidy (t : Text) : Text := ofLines (trimLines (squeeze (t.lines.map trimEnd)))

end Text

end SampleTypes
