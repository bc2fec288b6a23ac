import SampleTypes.Text.WordCharacter
import SampleTypes.Text.UpperCase
import SampleTypes.Text.Digit
/-!
# Words of a name — and the two case styles built from them

A JSON key may hold anything; a declared name is built from its *words*, the maximal runs of word
characters. Neither style touches more than the first character of a word: `camelCase` keeps the
first word as it is written and capitalises the others, `pascalCase` capitalises all of them. A
character whose upper-case form is longer makes the name longer.
-/

set_option autoImplicit false

namespace SampleTypes

namespace CodePoint

/-- Whether a code point may stand inside a word; a lone surrogate separates words. -/
def isWord : CodePoint → Bool
  | scalar c => isWordChar c
  | surrogate _ => false

/-- Whether a code point is a digit of some script. -/
def isDigit : CodePoint → Bool
  | scalar c => isDigitChar c
  | surrogate _ => false

def isUpper : CodePoint → Bool
  | scalar c => isUpperCase c
  | surrogate _ => false

end CodePoint

namespace Text

/-- The word with which a text opens, empty if it opens with a separator, and the words after it. -/
def openWords (t : Text) : Text × List Text :=
  -- The fold starts at the end of the text, so a separator ends the word that opens what follows it.
  t.foldr (fun c (word, later) =>
    if c.isWord then (c :: word, later)
    else ([], if word.isEmpty then later else word :: later)) ([], [])

/-- The words of a text, in order: its maximal runs of word characters. -/
def words (t : Text) : List Text :=
  let (word, later) := openWords t
  if word.isEmpty then later else word :: later

/-- The text with its first code point in upper case. -/
def capitalize : Text → Text
  | [] => []
  | c :: t => c.upperCase ++ t

/-- The words joined, all but the first capitalised. -/
def camelCase (t : Text) : Text :=
  match t.words with
  | [] => []
  | first :: later => first ++ later.flatMap capitalize

/-- The words joined, all capitalised. -/
def pascalCase (t : Text) : Text := t.words.flatMap capitalize

/-- The text with an underscore before it if it opens with a digit. -/
def guardDigit (t : Text) : Text :=
  match t with
  | c :: _ => if c.isDigit then .scalar '_' :: t else t
  | [] => []

end Text

end SampleTypes
