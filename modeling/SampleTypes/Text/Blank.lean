import SampleTypes.Text.Ranges
import SampleTypes.Text.CodePoint
/-!
# Blanks — the characters that count as white space

A *blank* is a character of Unicode 14 that is white space or whose bidirectional class is a
separator; besides the Unicode property this takes in the four information separators `U+001C` to
`U+001F`. A text is blank when it holds nothing else, the empty text included.
-/

set_option autoImplicit false

namespace SampleTypes

/-- The white space characters, as closed ranges of code points. -/
def blankRanges : List (Nat × Nat) :=
  [(0x9, 0xD), (0x1C, 0x20), (0x85, 0x85), (0xA0, 0xA0), (0x1680, 0x1680), (0x2000, 0x200A),
   (0x2028, 0x2029), (0x202F, 0x202F), (0x205F, 0x205F), (0x3000, 0x3000)]

/-- Whether a character is white space. -/
def isBlankChar (c : Char) : Bool := inRanges blankRanges c.toNat

/-- Whether a code point is white space; a lone surrogate is not. -/
def CodePoint.isBlank : CodePoint → Bool
  | .scalar c => isBlankChar c
  | .surrogate _ => false

/-- Whether a text is empty or holds nothing but white space. -/
def Text.isBlank (t : Text) : Bool := t.all CodePoint.isBlank

/-- The text without the white space at its end. -/
def Text.trimEnd (t : Text) : Text := (t.reverse.dropWhile CodePoint.isBlank).reverse

/-- The text without the white space at either end. -/
def Text.trim (t : Text) : Text := Text.trimEnd (t.dropWhile CodePoint.isBlank)

/-- The pieces of a text between its white space. No piece is empty. -/
def Text.splitBlank (t : Text) : List Text :=
  let close (piece : Text) (later : List Text) : List Text :=
    if piece.isEmpty then later else piece :: later
  let (piece, later) := t.foldr (fun c (piece, later) =>
    if c.isBlank then ([], close piece later) else (c :: piece, later)) (([] : Text), ([] : List Text))
  close piece later

end SampleTypes
