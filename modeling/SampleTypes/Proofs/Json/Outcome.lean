import Mathlib.Data.List.TakeWhile
import SampleTypes.Json.Reader

/-!
# What reading a text comes to

> **A property that a value has when its parts have it is a property of every value that is read**
> (`Json.Hereditary.of_read`), **and a text is refused for a reason that its dialect has**
> (`Json.Hereditary.read_outcome`).

The cases of the reader are gone through here, and nowhere else: what is to be known of the values of a
text is a `Hereditary` property, for which only the ways to put a value together have to be looked at.
-/

set_option autoImplicit false

namespace SampleTypes.Json

variable {α : Type} {dialect : Dialect} {fuel room : Nat} {p : Nat → Json → Prop}

/-- A text is refused because it is malformed, because it goes beyond a limit, or because it holds a
constant that its dialect does not know. -/
inductive Refusal.IsDue (dialect : Dialect) : Refusal α → Prop where
  | malformed {fault : Fault} {place : α} : IsDue dialect (.malformed fault place)
  | constant {name : String} : dialect = .strict → IsDue dialect (.constant name)
  | integerTooLong {digits : Nat} : integerDigitLimit < digits → IsDue dialect (.integerTooLong digits)
  | nestedTooDeep {container : Container} : IsDue dialect (.nestedTooDeep container)

theorem Refusal.IsDue.locate {refusal : Refusal (List Char)} (h : refusal.IsDue dialect)
    (text : List Char) : (refusal.locate text).IsDue dialect := by
  cases h with
  | malformed => exact .malformed
  | constant hstrict => exact .constant hstrict
  | integerTooLong hlong => exact .integerTooLong hlong
  | nestedTooDeep => exact .nestedTooDeep

/-- A property that passes from the parts of a value to the whole. It is asked for of what the reader puts
together only: integers within its limit, and objects whose members were set one after the other. The
number says how many arrays and objects may still be entered. -/
structure Hereditary (p : Nat → Json → Prop) : Prop where
  null (room : Nat) : p room null
  bool (room : Nat) (b : Bool) : p room (bool b)
  int (room : Nat) (negative : Bool) {digits : List Char} :
    (∀ d ∈ digits, d.isDigit = true) → digits.length ≤ integerDigitLimit →
      p room (int (if negative then -(digitsValue digits : Int) else digitsValue digits))
  float (room : Nat) (x : Float) : p room (float x)
  str (room : Nat) (t : Text) : p room (str t)
  arr {room : Nat} {items : List Json} : (∀ item ∈ items, p room item) → p (room + 1) (arr items)
  obj {room : Nat} {pairs : List (Text × Json)} :
    (∀ pair ∈ pairs, p room pair.2) → p (room + 1) (obj (membersOf pairs))

/-- A step of the reader gives a value with a property, or refuses the text for a reason that the dialect
has. -/
inductive Gives (dialect : Dialect) (q : Json → Prop) : Step Json → Prop where
  | value {value : Json} {rest : List Char} : q value → Gives dialect q (.ok (value, rest))
  | refusal {refusal : Refusal (List Char)} : refusal.IsDue dialect → Gives dialect q (.error refusal)

namespace Gives

variable {q : Json → Prop}

theorem of_ok {value : Json} {rest : List Char} (h : Gives dialect q (.ok (value, rest))) :
    q value := by
  cases h with
  | value hvalue => exact hvalue

theorem isDue {refusal : Refusal (List Char)} (h : Gives dialect q (.error refusal)) :
    refusal.IsDue dialect := by
  cases h with
  | refusal hdue => exact hdue

theorem fault {fault : Fault} {place : List Char} : Gives dialect q (faultAt fault place) :=
  .refusal .malformed

end Gives

/-! ## Strings, numbers and constants -/

/-- A string is refused only because it is malformed. -/
theorem readStringTail_eq_error {opening : List Char} {read : Text} {s : List Char}
    {refusal : Refusal (List Char)} (h : readStringTail opening read s = .error refusal) :
    ∃ fault place, refusal = .malformed fault place := by
  fun_induction readStringTail opening read s
  case case2 => cases h
  case case5 ih => exact ih h
  case case8 ih => exact ih h
  case case11 ih => exact ih h
  all_goals exact ⟨_, _, (Except.error.inj h).symm⟩

theorem isDigit_of_mem_wholeDigits {s : List Char} : ∀ d ∈ wholeDigits s, d.isDigit = true := by
  intro d hd
  rw [wholeDigits.eq_def] at hd
  split at hd
  · rw [List.mem_singleton.mp hd]
    rfl
  · exact List.mem_takeWhile_imp hd

theorem Hereditary.gives_readNumber (h : Hereditary p) (room : Nat) (s : List Char) :
    Gives dialect (p room) (readNumber s) := by
  rw [readNumber.eq_def]
  dsimp only
  -- With a sign and without one, what is left is read in the same way.
  split
  all_goals
    split
    · exact .fault
    · split
      · split
        · rename_i hlong
          exact .refusal (.integerTooLong hlong)
        · rename_i hshort
          exact .value (h.int room _ isDigit_of_mem_wholeDigits (Nat.not_lt.mp hshort))
      · exact .value (h.float room _)

theorem Hereditary.gives_readConstant (h : Hereditary p) (room : Nat) (name : String) (x : Float)
    (rest : List Char) : Gives dialect (p room) (readConstant dialect name x rest) := by
  cases dialect with
  | strict => exact .refusal (.constant rfl)
  | lenient => exact .value (h.float room x)

/-! ## Values -/

/-- With so much fuel, what is read anywhere in a text has the property, provided that what stands before
it in its array or object has. -/
structure ReaderGives (dialect : Dialect) (p : Nat → Json → Prop) (fuel : Nat) : Prop where
  value : ∀ room s, Gives dialect (p room) (readValue dialect fuel room s)
  items : ∀ room items s, (∀ item ∈ items, p room item) →
    Gives dialect (p (room + 1)) (readItems dialect fuel room items s)
  members : ∀ room members s, (∀ member ∈ members, p room member.2) →
    Gives dialect (p (room + 1)) (readMembers dialect fuel room members s)

namespace ReaderGives

theorem zero : ReaderGives dialect p 0 where
  value room s := by
    rw [readValue]
    exact .fault
  items room items s _ := by
    rw [readItems]
    exact .fault
  members room members s _ := by
    rw [readMembers]
    exact .fault

theorem value_succ (hp : Hereditary p) (h : ReaderGives dialect p fuel) (room : Nat) (s : List Char) :
    Gives dialect (p room) (readValue dialect (fuel + 1) room s) := by
  rw [readValue.eq_def]
  dsimp only
  split
  · split
    · rename_i hstring
      obtain ⟨fault, place, rfl⟩ := readStringTail_eq_error hstring
      exact .fault
    · exact .value (hp.str room _)
  -- To enter an object or an array takes up room, of which its parts have what is left.
  · cases room with
    | zero => exact .refusal .nestedTooDeep
    | succ room =>
      dsimp only
      split
      · have hempty : ∀ pair ∈ ([] : List (Text × Json)), p room pair.2 := by simp
        exact .value (hp.obj hempty)
      · exact h.members room [] _ (by simp)
  · cases room with
    | zero => exact .refusal .nestedTooDeep
    | succ room =>
      dsimp only
      split
      · exact .value (hp.arr (by simp))
      · exact h.items room [] _ (by simp)
  · exact .value (hp.null room)
  · exact .value (hp.bool room _)
  · exact .value (hp.bool room _)
  · exact hp.gives_readConstant room _ _ _
  · exact hp.gives_readConstant room _ _ _
  · exact hp.gives_readConstant room _ _ _
  · exact hp.gives_readNumber room _

theorem items_succ (hp : Hereditary p) (h : ReaderGives dialect p fuel) (room : Nat)
    (items : List Json) (s : List Char) (hitems : ∀ item ∈ items, p room item) :
    Gives dialect (p (room + 1)) (readItems dialect (fuel + 1) room items s) := by
  have hitem := h.value room s
  rw [readItems]
  split
  · rename_i hrefusal
    rw [hrefusal] at hitem
    exact .refusal hitem.isDue
  · rename_i item t hok
    rw [hok] at hitem
    have hnext : ∀ other ∈ item :: items, p room other :=
      List.forall_mem_cons.mpr ⟨hitem.of_ok, hitems⟩
    split
    · refine .value (hp.arr ?_)
      intro other hother
      exact hnext other (List.mem_reverse.mp hother)
    · exact h.items room _ _ hnext
    · exact .fault

theorem members_succ (hp : Hereditary p) (h : ReaderGives dialect p fuel) (room : Nat)
    (members : List (Text × Json)) (s : List Char) (hmembers : ∀ member ∈ members, p room member.2) :
    Gives dialect (p (room + 1)) (readMembers dialect (fuel + 1) room members s) := by
  rw [readMembers.eq_def]
  dsimp only
  split
  · split
    · rename_i hstring
      obtain ⟨fault, place, rfl⟩ := readStringTail_eq_error hstring
      exact .fault
    · rename_i key t _
      split
      · rename_i t _
        have hmember := h.value room (skipSpace t)
        split
        · rename_i hrefusal
          rw [hrefusal] at hmember
          exact .refusal hmember.isDue
        · rename_i value t hok
          rw [hok] at hmember
          have hnext : ∀ other ∈ (key, value) :: members, p room other.2 :=
            List.forall_mem_cons.mpr ⟨hmember.of_ok, hmembers⟩
          split
          · refine .value (hp.obj ?_)
            intro other hother
            exact hnext other (List.mem_reverse.mp hother)
          · exact h.members room _ _ hnext
          · exact .fault
      · exact .fault
  · exact .fault

end ReaderGives

namespace Hereditary

theorem readerGives (hp : Hereditary p) (dialect : Dialect) (fuel : Nat) :
    ReaderGives dialect p fuel := by
  induction fuel with
  | zero => exact .zero
  | succ fuel ih => exact ⟨ih.value_succ hp, ih.items_succ hp, ih.members_succ hp⟩

/-! ## Texts -/

/-- **What reading a text comes to:** a value with the property, or a refusal for a reason that the
dialect has. -/
theorem read_outcome (hp : Hereditary p) (dialect : Dialect) (text : List Char) :
    (∃ value, read dialect text = .ok value ∧ p nestingLimit value) ∨
      ∃ refusal, read dialect text = .error refusal ∧ refusal.IsDue dialect := by
  have hgives := (hp.readerGives dialect (2 * text.length + 2)).value nestingLimit (skipSpace text)
  unfold read
  split
  · exact Or.inr ⟨_, rfl, .malformed⟩
  · split
    · rename_i hrefusal
      rw [hrefusal] at hgives
      exact Or.inr ⟨_, rfl, hgives.isDue.locate text⟩
    · rename_i hok
      rw [hok] at hgives
      split
      · exact Or.inl ⟨_, rfl, hgives.of_ok⟩
      · exact Or.inr ⟨_, rfl, .malformed⟩

theorem of_read (hp : Hereditary p) {text : List Char} {value : Json}
    (h : read dialect text = .ok value) : p nestingLimit value := by
  rcases hp.read_outcome dialect text with ⟨_, hread, hvalue⟩ | ⟨_, hread, _⟩
  · cases h.symm.trans hread
    exact hvalue
  · cases h.symm.trans hread

end Hereditary

end SampleTypes.Json
