import SampleTypes.Text.CodePoint
/-!
# Splitting a text at a separator

`Text.splitOn` cuts a text at every occurrence of one code point. There is one piece more than there
are separators, so pieces may be empty, and joining them with the separator gives the text back.
-/

set_option autoImplicit false

namespace SampleTypes.Text

/-- The pieces of a text before, between and after the occurrences of a separator. -/
def splitOn (separator : CodePoint) (t : Text) : List Text :=
  let (piece, later) := t.foldr (fun c (piece, later) =>
    if c = separator then ([], piece :: later) else (c :: piece, later))
    (([] : Text), ([] : List Text))
  piece :: later

/-- Whether a text occurs in another as a whole. -/
def occursIn (pattern : Text) : Text → Bool
  | [] => pattern.isEmpty
  | c :: t => List.isPrefixOf pattern (c :: t) || occursIn pattern t

end SampleTypes.Text
