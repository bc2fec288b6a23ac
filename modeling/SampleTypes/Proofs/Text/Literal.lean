import Mathlib.Tactic.IntervalCases
import SampleTypes.Json.Reader
import SampleTypes.Text.Literal

/-!
# Literals and the lexical rules of classes

A literal is escaped as JSON is, but it is a compiler of classes that reads it, in two phases. First
the escapes `\uXXXX` are translated wherever they stand, unless the backslash comes after an odd
number of backslashes. Only then is the string between the quotes read, with escapes of one letter.

> **A literal is one string literal on one line, and stands for the text of which it was made**
> (`stringLiteral?_literal`).

A key may hold `\u` itself, or end in a backslash: what keeps the phases apart is that a backslash
of the key is doubled, so that the number of backslashes before the next code point is even again.
-/

set_option autoImplicit false

namespace SampleTypes

/-! ## The lexical rules -/

/-- The code after the first phase, if an even number of backslashes stands right before it or an odd
one. -/
def translateEscapes : Bool → Text → Option Text
  | _, [] => some []
  | true, .scalar '\\' :: .scalar 'u' :: t =>
    match t with
    | .scalar a :: .scalar b :: .scalar c :: .scalar d :: t => do
      return .ofNat (← Json.hexQuad? a b c d) :: (← translateEscapes true t)
    | _ => none
  | even, .scalar '\\' :: t => do return .scalar '\\' :: (← translateEscapes (!even) t)
  | _, c :: t => do return c :: (← translateEscapes true t)

/-- What the escape of one letter stands for. -/
def escapedChar? : Char → Option Char
  | 'b' => some '\x08'
  | 't' => some '\t'
  | 'n' => some '\n'
  | 'f' => some '\x0c'
  | 'r' => some '\r'
  | '"' => some '"'
  | '\\' => some '\\'
  | _ => none

/-- What may not stand for itself between the quotes. -/
def literalMarks : Text := Text.ofChars ['"', '\\', '\n', '\r']

/-- The string that is read up to the closing quote, with which the text has to end. -/
def literalBody? : Text → Option Text
  | [.scalar '"'] => some []
  | .scalar '\\' :: .scalar c :: t => do return .scalar (← escapedChar? c) :: (← literalBody? t)
  | c :: t => if c ∈ literalMarks then none else do return c :: (← literalBody? t)
  | [] => none

/-- The string for which a string literal on one line stands. -/
def stringLiteral? (t : Text) : Option Text :=
  match translateEscapes true t with
  | some (.scalar '"' :: body) => literalBody? body
  | _ => none

/-! ## The first phase -/

theorem translateEscapes_plain {c : CodePoint} (hc : c ≠ .scalar '\\') (even : Bool) (t : Text) :
    translateEscapes even (c :: t) = (translateEscapes true t).map (c :: ·) := by
  rw [translateEscapes]
  · cases translateEscapes true t <;> rfl
  · exact hc
  · intro _ _ h
    exact absurd h hc

/-- After an odd number of backslashes no escape begins. -/
theorem translateEscapes_odd (c : CodePoint) (t : Text) :
    translateEscapes false (c :: t) = (translateEscapes true t).map (c :: ·) := by
  by_cases hc : c = .scalar '\\'
  · subst hc
    rw [translateEscapes, Bool.not_false]
    · cases translateEscapes true t <;> rfl
    · simp
  · exact translateEscapes_plain hc false t

/-- Two code points of which the first is a backslash are left as they are, unless they begin an
escape. -/
theorem translateEscapes_backslash {c : CodePoint} (hc : c ≠ .scalar 'u') (t : Text) :
    translateEscapes true (.scalar '\\' :: c :: t) =
      (translateEscapes true t).map ([.scalar '\\', c] ++ ·) := by
  rw [translateEscapes]
  · rw [Bool.not_true, translateEscapes_odd]
    cases translateEscapes true t <;> rfl
  · intro _ _ h
    exact absurd (List.cons.inj h).1 hc

theorem exists_hexQuad?_hexadecimal {n : Nat} (hn : n < 0x20) :
    ∃ a b c d, hexadecimal 4 n = [a, b, c, d] ∧ Json.hexQuad? a b c d = some n := by
  interval_cases n <;> exact ⟨_, _, _, _, rfl, rfl⟩

/-! ## The second phase -/

theorem literalBody?_plain {c : CodePoint} (hc : c ∉ literalMarks) (t : Text) :
    literalBody? (c :: t) = (literalBody? t).map (c :: ·) := by
  rw [literalBody?]
  · rw [if_neg hc]
    cases literalBody? t <;> rfl
  · rintro rfl
    exact absurd (by decide) hc
  · rintro _ _ rfl
    exact absurd (by decide) hc

theorem literalBody?_backslash {letter c : Char} (hletter : escapedChar? letter = some c) (t : Text) :
    literalBody? (.scalar '\\' :: .scalar letter :: t) = (literalBody? t).map (.scalar c :: ·) := by
  rw [literalBody?, hletter]
  cases literalBody? t <;> rfl

/-! ## A literal, code point by code point -/

/-- What is written for a code point reads as that code point, whatever comes after it; `middle` is
what is left of it between the phases. -/
structure CodePoint.ReadsAs (c : CodePoint) (written middle : Text) : Prop where
  translated : ∀ t, translateEscapes true (written ++ t) = (translateEscapes true t).map (middle ++ ·)
  read : ∀ t, literalBody? (middle ++ t) = (literalBody? t).map (c :: ·)

namespace CodePoint.ReadsAs

theorem plain {c : CodePoint} (hc : c ∉ literalMarks) : c.ReadsAs [c] [c] := by
  refine ⟨fun t => translateEscapes_plain ?_ true t, fun t => literalBody?_plain hc t⟩
  rintro rfl
  exact absurd (by decide) hc

/-- The escape of one letter is left to the second phase. -/
theorem letter {letter c : Char} (hletter : escapedChar? letter = some c) :
    ReadsAs (.scalar c) (.ofChars ['\\', letter]) (.ofChars ['\\', letter]) := by
  refine ⟨fun t => translateEscapes_backslash ?_ t, fun t => literalBody?_backslash hletter t⟩
  intro hu
  rw [CodePoint.scalar.inj hu] at hletter
  exact absurd hletter (by simp [escapedChar?])

/-- The first phase leaves nothing of an escape of four digits but the code point itself. -/
theorem quad {c : Char} (hc : c.toNat < 0x20) (hmark : .scalar c ∉ literalMarks) :
    ReadsAs (.scalar c) (.ofChars ('\\' :: 'u' :: hexadecimal 4 c.toNat)) [.scalar c] := by
  refine ⟨fun t => ?_, fun t => literalBody?_plain hmark t⟩
  obtain ⟨x, y, z, w, hdigits, hquad⟩ := exists_hexQuad?_hexadecimal hc
  have hpoint : CodePoint.ofNat c.toNat = .scalar c := by
    rw [CodePoint.ofNat, dif_neg (by omega), Char.ofNat_toNat]
  rw [hdigits]
  show translateEscapes true (.scalar '\\' :: .scalar 'u' :: .scalar x :: .scalar y :: .scalar z ::
    .scalar w :: t) = _
  rw [translateEscapes, hquad, ← hpoint]
  cases translateEscapes true t <;> rfl

theorem literalChar (c : Char) :
    ∃ middle, ReadsAs (.scalar c) (.ofChars (SampleTypes.literalChar c)) middle := by
  unfold SampleTypes.literalChar
  split
  case h_8 =>
    -- Neither a quote nor a backslash, and no end of a line.
    have hmark : CodePoint.scalar c ∉ literalMarks := by
      simp_all [literalMarks, Text.ofChars]
    by_cases hc : c.toNat < 0x20
    · rw [if_pos hc]
      exact ⟨_, quad hc hmark⟩
    · rw [if_neg hc]
      exact ⟨_, plain hmark⟩
  all_goals exact ⟨_, letter rfl⟩

/-- **What is written for a code point in a literal reads as that code point.** -/
theorem literal (c : CodePoint) : ∃ middle, c.ReadsAs c.literal middle := by
  cases c with
  | scalar c => exact literalChar c
  | surrogate half => exact ⟨_, plain (by simp [literalMarks, Text.ofChars])⟩

end CodePoint.ReadsAs

/-- Code points are read one after another. -/
theorem literalBody?_flatMap (key : Text) : ∃ middle,
    (∀ t, translateEscapes true (key.flatMap CodePoint.literal ++ t) =
      (translateEscapes true t).map (middle ++ ·)) ∧
    ∀ t, literalBody? (middle ++ t) = (literalBody? t).map (key ++ ·) := by
  induction key with
  | nil => exact ⟨[], by simp, by simp⟩
  | cons c key ih =>
    obtain ⟨first, hc⟩ := CodePoint.ReadsAs.literal c
    obtain ⟨rest, htranslated, hread⟩ := ih
    refine ⟨first ++ rest, fun t => ?_, fun t => ?_⟩
    · rw [List.flatMap_cons, List.append_assoc, hc.translated, htranslated, Option.map_map]
      simp [Function.comp_def]
    · rw [List.append_assoc, hc.read, hread, Option.map_map]
      rfl

/-- **A literal is one string literal on one line, and stands for the text of which it was made**,
whatever that is. -/
theorem stringLiteral?_literal (key : Text) : stringLiteral? key.literal = some key := by
  obtain ⟨middle, htranslated, hread⟩ := literalBody?_flatMap key
  have hquote : translateEscapes true key.literal = some (.scalar '"' :: (middle ++ ("\"" : Text))) := by
    show translateEscapes true (.scalar '"' :: (key.flatMap CodePoint.literal ++ ("\"" : Text))) = _
    rw [translateEscapes_plain (by decide), htranslated]
    rfl
  rw [stringLiteral?, hquote]
  show literalBody? (middle ++ ("\"" : Text)) = _
  rw [hread]
  show some (key ++ []) = _
  rw [List.append_nil]

/-- An escape that the code holds is translated, one after a backslash is not. -/
example : stringLiteral? "\"\\u0041\"" = some "A" ∧
    stringLiteral? "\"\\\\u0041\"" = some "\\u0041" := by decide +kernel

end SampleTypes
