import SampleTypes.Console.EmojiNames
import SampleTypes.Json.Reader
import SampleTypes.Text.Blank
import SampleTypes.Text.LowerCase
import SampleTypes.Text.Split
/-!
# Emoji by name

A text for the console may name an emoji between two colons, as in `:smile:`. The name ends at the next
colon and holds no white space; letters of either case will do. After the name may stand `-text` or
`-emoji`, which asks for the form of plain text or for the colored one. A name that no emoji has stays as
it is, with both colons.
-/

set_option autoImplicit false

namespace SampleTypes

namespace Emoji

/-- The code point with a hexadecimal number. -/
def codePoint (digits : Text) : CodePoint :=
  .ofNat (digits.foldl (fun n c => 16 * n + (Json.hexDigit? c.toChar).getD 0) 0)

/-- A name with its code points, as they stand in the list of names. -/
def entry (t : Text) : Text × Text :=
  let name := t.takeWhile (· != .scalar '=')
  (name, ((t.drop (name.length + 1)).splitOn (.scalar '+')).map codePoint)

def table : List (Text × Text) := (Text.ofString emojiNames).splitBlank.map entry

/-- The emoji of a name in small letters. -/
def ofName? (name : Text) : Option Text := (table.find? fun entry => entry.1 == name).map (·.2)

/-- The colon around a name. -/
def colon : CodePoint := .scalar ':'

def forms : List (Text × CodePoint) :=
  [("-text", .scalar '\ufe0e'), ("-emoji", .scalar '\ufe0f')]

/-- A name without what asks for a form, and the code point of the form. -/
def splitForm (t : Text) : Text × Text :=
  match forms.find? fun form => form.1.isSuffixOf t with
  | some (ending, form) => (t.take (t.length - ending.length), [form])
  | none => (t, [])

/-- The emoji that is named between colons, in the form that is asked for. -/
def named? (t : Text) : Option Text :=
  let (name, form) := splitForm t
  (ofName? name.lowerCase).map (· ++ form)

/-- What stands after a piece and one more code point is shorter than the whole. -/
theorem length_lt_of_drop_eq_cons {t rest : Text} {n : Nat} {c : CodePoint}
    (h : t.drop n = c :: rest) : rest.length < t.length :=
  calc rest.length < (c :: rest).length := Nat.lt_succ_self _
    _ = (t.drop n).length := (congrArg List.length h).symm
    _ = t.length - n := List.length_drop
    _ ≤ t.length := Nat.sub_le _ _

/-- A text with an emoji in place of every name of one. -/
def replaceNames : Text → Text
  | [] => []
  | c :: t =>
    if c = colon then
      let name := t.takeWhile fun c => c != colon && !c.isBlank
      match _h : t.drop name.length with
      | last :: rest =>
        -- A name that no emoji has uses its second colon up: it does not start another name.
        if last = colon then (named? name).getD (colon :: name ++ [colon]) ++ replaceNames rest
        else c :: replaceNames t
      | [] => c :: replaceNames t
    else c :: replaceNames t
termination_by t => t.length
decreasing_by
  · exact Nat.lt_succ_of_lt (length_lt_of_drop_eq_cons _h)
  · exact Nat.lt_succ_self _
  · exact Nat.lt_succ_self _
  · exact Nat.lt_succ_self _

end Emoji

end SampleTypes
