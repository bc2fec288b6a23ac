import Mathlib
import SampleTypes.Proofs.Json.Objects

/-!
# The limits of the reader

What the lenient reader gives is within its limits (`Json.fitsIn_of_read`): integers have no more digits
than may be read, and arrays and objects are nested no deeper than they may. It refuses what is malformed
and what goes beyond one of the two limits, and nothing else (`Json.read_lenient_outcome`).
-/

set_option autoImplicit false

namespace SampleTypes.Json

variable {α : Type} {room : Nat}

/-- The integers of a value have no more digits than may be read, and at most `room` of its arrays and
objects stand in one another. -/
inductive FitsIn : Nat → Json → Prop where
  | null {room : Nat} : FitsIn room null
  | bool {room : Nat} {b : Bool} : FitsIn room (bool b)
  | int {room : Nat} {n : Int} : n.natAbs < 10 ^ integerDigitLimit → FitsIn room (int n)
  | float {room : Nat} {x : Float} : FitsIn room (float x)
  | str {room : Nat} {t : Text} : FitsIn room (str t)
  | arr {room : Nat} {items : List Json} :
      (∀ item ∈ items, FitsIn room item) → FitsIn (room + 1) (arr items)
  | obj {room : Nat} {members : List (Text × Json)} :
      (∀ member ∈ members, FitsIn room member.2) → FitsIn (room + 1) (obj members)

theorem FitsIn.mono {less more : Nat} {value : Json} (h : FitsIn less value) (hle : less ≤ more) :
    FitsIn more value := by
  induction h generalizing more with
  | null => exact .null
  | bool => exact .bool
  | int hdigits => exact .int hdigits
  | float => exact .float
  | str => exact .str
  | arr _ ih =>
    cases more with
    | zero => exact absurd hle (Nat.not_succ_le_zero _)
    | succ more => exact .arr fun item hitem => ih item hitem (Nat.le_of_succ_le_succ hle)
  | obj _ ih =>
    cases more with
    | zero => exact absurd hle (Nat.not_succ_le_zero _)
    | succ more => exact .obj fun member hmember => ih member hmember (Nat.le_of_succ_le_succ hle)

/-- A text is refused because it goes beyond a limit of the reader. -/
inductive Refusal.IsLimit : Refusal α → Prop where
  | integerTooLong {digits : Nat} : integerDigitLimit < digits → IsLimit (.integerTooLong digits)
  | nestedTooDeep {container : Container} : IsLimit (.nestedTooDeep container)

/-! ## Numbers -/

theorem value_le_nine {d : Char} (h : d.isDigit = true) : d.toNat - '0'.toNat ≤ 9 := by
  simp only [Char.isDigit, Bool.and_eq_true, decide_eq_true_eq, UInt32.le_iff_toNat_le] at h
  have hlast : d.toNat ≤ 57 := h.2
  have hzero : '0'.toNat = 48 := rfl
  omega

/-- Digits spell a number with no more digits than they are. -/
theorem digitsValue_lt {digits : List Char} (h : ∀ d ∈ digits, d.isDigit = true) :
    digitsValue digits < 10 ^ digits.length := by
  suffices hfold : ∀ n, digits.foldl (fun n d => 10 * n + (d.toNat - '0'.toNat)) n <
      (n + 1) * 10 ^ digits.length by
    simpa [digitsValue] using hfold 0
  induction digits with
  | nil => simp
  | cons d digits ih =>
    obtain ⟨hd, hdigits⟩ := List.forall_mem_cons.mp h
    intro n
    have hstep : 10 * n + (d.toNat - '0'.toNat) + 1 ≤ (n + 1) * 10 := by
      have := value_le_nine hd
      omega
    calc digits.foldl (fun n d => 10 * n + (d.toNat - '0'.toNat)) (10 * n + (d.toNat - '0'.toNat))
        < (10 * n + (d.toNat - '0'.toNat) + 1) * 10 ^ digits.length := ih hdigits _
      _ ≤ (n + 1) * 10 * 10 ^ digits.length := Nat.mul_le_mul_right _ hstep
      _ = (n + 1) * 10 ^ (d :: digits).length := by
        rw [List.length_cons, Nat.pow_succ, Nat.mul_assoc, Nat.mul_comm 10]

theorem natAbs_of_digits (negative : Bool) {digits : List Char} (h : ∀ d ∈ digits, d.isDigit = true)
    (hlength : digits.length ≤ integerDigitLimit) :
    (if negative then -(digitsValue digits : Int) else digitsValue digits).natAbs <
      10 ^ integerDigitLimit := by
  have hlt : digitsValue digits < 10 ^ integerDigitLimit :=
    calc digitsValue digits
        < 10 ^ digits.length := digitsValue_lt h
      _ ≤ 10 ^ integerDigitLimit := Nat.pow_le_pow_right (by decide) hlength
  cases negative with
  | true => rwa [if_pos rfl, Int.natAbs_neg, Int.natAbs_natCast]
  | false => rwa [if_neg Bool.false_ne_true, Int.natAbs_natCast]

/-! ## Values -/

theorem hereditary_fitsIn : Hereditary FitsIn where
  null _ := .null
  bool _ _ := .bool
  int _ negative _ hdigits hlength := .int (natAbs_of_digits negative hdigits hlength)
  float _ _ := .float
  str _ _ := .str
  arr hitems := .arr hitems
  obj hpairs := .obj fun _ hmember =>
    hpairs _ ((mem_foldl_setMember hmember).resolve_right List.not_mem_nil)

/-- What the lenient dialect refuses is malformed or goes beyond a limit. -/
theorem Refusal.IsDue.malformed_or_isLimit {refusal : Refusal α} (h : refusal.IsDue .lenient) :
    (∃ fault place, refusal = .malformed fault place) ∨ refusal.IsLimit := by
  cases h with
  | malformed => exact Or.inl ⟨_, _, rfl⟩
  | constant hstrict => cases hstrict
  | integerTooLong hlong => exact Or.inr (.integerTooLong hlong)
  | nestedTooDeep => exact Or.inr .nestedTooDeep

/-! ## Texts -/

/-- **What the lenient reader makes of a text:** a value within the limits of the reader, or a refusal
because the text is malformed or goes beyond one of them. -/
theorem read_lenient_outcome (text : List Char) :
    (∃ value, read .lenient text = .ok value ∧ FitsIn nestingLimit value) ∨
      (∃ fault position, read .lenient text = .error (.malformed fault position)) ∨
        ∃ refusal, read .lenient text = .error refusal ∧ refusal.IsLimit := by
  rcases hereditary_fitsIn.read_outcome .lenient text with hvalue | ⟨refusal, hread, hdue⟩
  · exact Or.inl hvalue
  · rcases hdue.malformed_or_isLimit with ⟨fault, position, rfl⟩ | hlimit
    · exact Or.inr (Or.inl ⟨fault, position, hread⟩)
    · exact Or.inr (Or.inr ⟨refusal, hread, hlimit⟩)

theorem fitsIn_of_read {text : List Char} {value : Json} (h : read .lenient text = .ok value) :
    FitsIn nestingLimit value :=
  hereditary_fitsIn.of_read h

section Digits

variable {dialect : Dialect} {d : Char} {digits : List Char}

theorem skipSpace_of_isDigit (h : d.isDigit = true) : skipSpace (d :: digits) = d :: digits := by
  rw [skipSpace, if_neg]
  intro hspace
  simp only [isSpace, Bool.or_eq_true, decide_eq_true_eq] at hspace
  rcases hspace with ((rfl | rfl) | rfl) | rfl <;> cases h

theorem wholeDigits_eq (hzero : d ≠ '0') (h : ∀ c ∈ d :: digits, c.isDigit = true) :
    wholeDigits (d :: digits) = d :: digits := by
  rw [wholeDigits.eq_def]
  split
  · rename_i heq
    exact absurd (List.cons.inj heq).1 hzero
  · exact List.takeWhile_eq_self_iff.mpr h

theorem readNumber_digits (hzero : d ≠ '0') (h : ∀ c ∈ d :: digits, c.isDigit = true)
    (hlong : integerDigitLimit < (d :: digits).length) :
    readNumber (d :: digits) = .error (.integerTooLong (d :: digits).length) := by
  rw [readNumber.eq_def]
  dsimp only
  split
  · rename_i heq
    rw [(List.cons.inj heq).1] at h
    exact absurd (h '-' List.mem_cons_self) (by decide)
  · dsimp only
    rw [wholeDigits_eq hzero h, List.drop_length, if_neg (by simp), if_pos (by rfl), if_pos hlong]

theorem readValue_of_isDigit (h : d.isDigit = true) (fuel room : Nat) :
    readValue dialect (fuel + 1) room (d :: digits) = readNumber (d :: digits) := by
  rw [readValue.eq_def]
  dsimp only
  split
  all_goals first
    | rfl
    | rename_i heq
      rw [(List.cons.inj heq).1] at h
      exact absurd h (by decide)

/-- A text of too many digits is refused for their number, unless a zero stands first. -/
theorem read_digits (hzero : d ≠ '0') (h : ∀ c ∈ d :: digits, c.isDigit = true)
    (hlong : integerDigitLimit < (d :: digits).length) :
    read dialect (d :: digits) = .error (.integerTooLong (d :: digits).length) := by
  have hd := h d List.mem_cons_self
  have hmark : (d :: digits).head? ≠ some '\ufeff' := by
    intro hhead
    rw [Option.some.inj hhead] at hd
    cases hd
  rw [read, if_neg hmark, skipSpace_of_isDigit hd, readValue_of_isDigit hd,
    readNumber_digits hzero h hlong]
  rfl

end Digits

end SampleTypes.Json
