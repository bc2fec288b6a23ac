/-!
# Code points and texts

A JSON string is a sequence of *code points*: an escape such as `\ud800` puts half of a surrogate
pair into it, which is no character. `CodePoint` is a character or such a half, and `Text` a list of
them. Keys, names and generated code are texts, so that two keys which differ in a lone surrogate
stay two keys. At the border to the outside, `Text.display` gives the `String` with the replacement
character for each lone surrogate.
-/

set_option autoImplicit false

namespace SampleTypes

/-- A Unicode code point: a character, or half of a surrogate pair that stands alone. -/
inductive CodePoint where
  | scalar (c : Char)
  /-- The surrogate `0xD800 + half`. -/
  | surrogate (half : Fin 2048)
deriving DecidableEq, Repr, Inhabited

namespace CodePoint

def value : CodePoint → Nat
  | scalar c => c.toNat
  | surrogate half => 0xD800 + half.val

/-- The code point with a number below `0x110000`. -/
def ofNat (n : Nat) : CodePoint :=
  if h : 0xD800 ≤ n ∧ n < 0xE000 then surrogate ⟨n - 0xD800, by omega⟩ else scalar (Char.ofNat n)

/-- The character, or the replacement character for a lone surrogate. -/
def toChar : CodePoint → Char
  | scalar c => c
  | surrogate _ => '\ufffd'

end CodePoint

/-- A sequence of code points. -/
abbrev Text := List CodePoint

namespace Text

/-- The text with the given characters. -/
def ofChars (cs : List Char) : Text := cs.map .scalar

def ofString (s : String) : Text := ofChars s.toList

instance : Coe String Text := ⟨ofString⟩

/-- The string for the outside, with the replacement character for each lone surrogate. -/
def display (t : Text) : String := String.ofList (t.map CodePoint.toChar)

/-- Texts with a separator between every two of them. -/
def join (separator : Text) (ts : List Text) : Text := separator.intercalate ts

end Text

end SampleTypes
