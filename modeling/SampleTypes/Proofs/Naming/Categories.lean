import Mathlib.Data.List.Sort
import Mathlib.Data.List.TakeWhile
import SampleTypes.Proofs.Naming.Names
import SampleTypes.Text.Category

/-!
# The categories of the characters in names

Three tables decide which characters get into a name: that of word characters, that of digits and that of
upper-case forms. The categories of Unicode are a fourth one, and here the three are held against it:

* a word character is a letter or a number of any kind (`CodePoint.isWord_iff`);
* a decimal digit is a digit (`CodePoint.isDigit_of_category?`), so it is guarded;
* upper case leads from letters to letters and marks, and leaves other numbers alone.

So all that words are made of may stand in an identifier, **but for the other numbers**.
-/

set_option autoImplicit false

namespace SampleTypes

/-! ## Ranges of a category -/

section Ranges

variable {es : List (Nat × Nat × Category)} {n : Nat}

theorem exists_of_categoryIn {category : Category} (h : categoryIn es n = some category) :
    ∃ e ∈ es, (e.1 ≤ n ∧ n ≤ e.2.1) ∧ e.2.2 = category := by
  induction es with
  | nil => exact absurd h (by simp [categoryIn])
  | cons e es ih =>
    rw [categoryIn] at h
    split at h
    · exact absurd h (by simp)
    · split at h
      · rename_i hlow hhigh
        exact ⟨e, List.mem_cons_self, ⟨Nat.le_of_not_lt hlow, hhigh⟩, Option.some.inj h⟩
      · obtain ⟨e, he, hn⟩ := ih h
        exact ⟨e, List.mem_cons_of_mem _ he, hn⟩

theorem categoryIn_of_mem {low : Nat} (h : ascendsFrom low (es.map fun e => (e.1, e.2.1)) = true)
    {e : Nat × Nat × Category} (he : e ∈ es) (hfirst : e.1 ≤ n) (hlast : n ≤ e.2.1) :
    categoryIn es n = some e.2.2 := by
  induction es generalizing low with
  | nil => exact absurd he (by simp)
  | cons entry es ih =>
    rw [List.map_cons, ascendsFrom, Bool.and_eq_true, Bool.and_eq_true, decide_eq_true_iff,
      decide_eq_true_iff] at h
    obtain ⟨⟨_, hvalid⟩, hrest⟩ := h
    rw [categoryIn]
    rcases List.mem_cons.mp he with rfl | he
    · rw [if_neg (Nat.not_lt.mpr hfirst), if_pos hlast]
    · have hafter : entry.2.1 + 1 ≤ e.1 := le_of_ascendsFrom hrest _ (List.mem_map_of_mem he)
      have hlow : ¬ n < entry.1 := Nat.not_lt.mpr (by omega)
      have hhigh : ¬ n ≤ entry.2.1 := by omega
      rw [if_neg hlow, if_neg hhigh]
      exact ih hrest he

/-- Ranges with one more before them, which is joined to the first if it ends just before it. -/
def joined (first last : Nat) : List (Nat × Nat) → List (Nat × Nat)
  | [] => [(first, last)]
  | r :: rest =>
    if last + 1 = r.1 ∧ first ≤ last ∧ r.1 ≤ r.2 then (first, r.2) :: rest
    else (first, last) :: r :: rest

/-- The ranges of the categories that pass, the joined ones as one. -/
def rangesOf (passes : Category → Bool) : List (Nat × Nat × Category) → List (Nat × Nat)
  | [] => []
  | (first, last, category) :: rest =>
    if passes category then joined first last (rangesOf passes rest) else rangesOf passes rest

theorem exists_mem_joined {first last : Nat} {rs : List (Nat × Nat)} :
    (∃ r ∈ joined first last rs, r.1 ≤ n ∧ n ≤ r.2) ↔
      (first ≤ n ∧ n ≤ last) ∨ ∃ r ∈ rs, r.1 ≤ n ∧ n ≤ r.2 := by
  cases rs with
  | nil => simp [joined]
  | cons r rs =>
    rw [joined]
    split
    · simp only [List.exists_mem_cons_iff, ← or_assoc]
      exact or_congr (by omega) Iff.rfl
    · rw [List.exists_mem_cons_iff]

theorem exists_mem_rangesOf {passes : Category → Bool} :
    (∃ r ∈ rangesOf passes es, r.1 ≤ n ∧ n ≤ r.2) ↔
      ∃ e ∈ es, (e.1 ≤ n ∧ n ≤ e.2.1) ∧ passes e.2.2 = true := by
  induction es with
  | nil => simp [rangesOf]
  | cons e es ih =>
    rw [rangesOf, List.exists_mem_cons_iff, ← ih]
    split
    · rename_i hpasses
      rw [exists_mem_joined]
      simp [hpasses]
    · rename_i hpasses
      simp [hpasses]

/-- Whether each of the ranges lies in one of a category that passes, looking for all of them in one go
through the table; they have to ascend for that. -/
def sweep (passes : Category → Bool) : List (Nat × Nat × Category) → List (Nat × Nat) → Bool
  | [], rs => rs.isEmpty
  | e :: es, rs =>
    sweep passes es <| bif passes e.2.2 then
      rs.dropWhile fun r => Nat.ble e.1 r.1 && Nat.ble r.2 e.2.1
    else rs

theorem exists_of_sweep {passes : Category → Bool} {rs : List (Nat × Nat)}
    (h : sweep passes es rs = true) {r : Nat × Nat} (hr : r ∈ rs) :
    ∃ e ∈ es, passes e.2.2 = true ∧ e.1 ≤ r.1 ∧ r.2 ≤ e.2.1 := by
  induction es generalizing rs with
  | nil => exact absurd hr (by simp [List.isEmpty_iff.mp h])
  | cons e es ih =>
    have hlater : ∀ {rs'}, sweep passes es rs' = true → r ∈ rs' →
        ∃ e' ∈ e :: es, passes e'.2.2 = true ∧ e'.1 ≤ r.1 ∧ r.2 ≤ e'.2.1 := by
      intro rs' h hr
      obtain ⟨e', he', hfound⟩ := ih h hr
      exact ⟨e', List.mem_cons_of_mem _ he', hfound⟩
    rw [sweep] at h
    cases hpasses : passes e.2.2 with
    | false =>
      rw [hpasses] at h
      exact hlater h hr
    | true =>
      rw [hpasses, cond_true] at h
      rw [← List.takeWhile_append_dropWhile (p := fun r => Nat.ble e.1 r.1 && Nat.ble r.2 e.2.1)
        (l := rs)] at hr
      rcases List.mem_append.mp hr with hr | hr
      · have hin := List.mem_takeWhile_imp hr
        rw [Bool.and_eq_true, Nat.ble_eq, Nat.ble_eq] at hin
        exact ⟨e, List.mem_cons_self, hpasses, hin⟩
      · exact hlater h hr

end Ranges

/-! ## The tables -/

/-- The run of the circled letters, which are symbols and no letters. -/
def circledRun : CaseRun := ⟨0x24D0, 0x24E9, 1, 0x24B6⟩

/-- The ranges of what upper case makes of word characters: where the runs lead, and with what the longer
forms open. -/
def upperCaseTargets : List (Nat × Nat) :=
  ((upperCaseRuns.filter (· != circledRun)).map fun run =>
    (run.target, run.target + (run.last - run.first))) ++
  upperCaseExpansions.map fun expansion => (expansion.2.headD 0, expansion.2.headD 0)

/-- The tables of word characters, of digits and of upper-case forms agree with that of categories:
what is a word character and no mark, which decimal digits are digits, that upper case makes letters, that
letters and marks may follow, and that nothing which is moved is another number. -/
theorem tables_agree :
    ascendsFrom 0 (categoryRanges.map fun e => (e.1, e.2.1)) = true ∧
    (ascendsFrom 0 wordRanges = true ∧ rangesOf (· != .M) categoryRanges = wordRanges) ∧
    (ascendsFrom 0 digitRanges = true ∧ (categoryRanges.all fun e => e.2.2 != .Nd ||
      digitRanges.any fun r => Nat.ble r.1 e.1 && Nat.ble e.2.1 r.2) = true) ∧
    (wordRanges.all fun r => Nat.blt r.2 circledRun.first || Nat.blt circledRun.last r.1) = true ∧
    sweep (fun category => category == .L || category == .Nl) categoryRanges
      (upperCaseTargets.insertionSort fun r s => r.1 ≤ s.1) = true ∧
    (upperCaseExpansions.all fun expansion =>
      expansion.2.tail.all fun n => (CodePoint.scalar (Char.ofNat n)).isIdentifierPart) = true ∧
    sweep (· != .No) categoryRanges
      ((upperCaseRuns.filter (· != circledRun)).map fun run => (run.first, run.last)) = true ∧
    sweep (· != .No) categoryRanges
      (upperCaseExpansions.map fun expansion => (expansion.1, expansion.1)) = true := by
  decide +kernel

theorem categoryRanges_ascend :
    ascendsFrom 0 (categoryRanges.map fun e => (e.1, e.2.1)) = true := tables_agree.1

namespace CodePoint

variable {c : CodePoint}

theorem isIdentifierPart_of_opensIdentifier (h : c.opensIdentifier = true) :
    c.isIdentifierPart = true := by
  rw [isIdentifierPart, h, Bool.true_or, Bool.true_or]

theorem scalar_of_category? {category : Category} (h : c.category? = some category) :
    ∃ char, c = .scalar char ∧ ∃ e ∈ categoryRanges,
      (e.1 ≤ char.toNat ∧ char.toNat ≤ e.2.1) ∧ e.2.2 = category := by
  cases c with
  | surrogate half => exact absurd h (by simp [category?])
  | scalar char => exact ⟨char, rfl, exists_of_categoryIn h⟩

/-- **Word characters are the letters and the numbers of any kind.** -/
theorem isWord_iff :
    c.isWord = true ↔ ∃ category, c.category? = some category ∧ category ≠ .M := by
  cases c with
  | surrogate half => simp [isWord, category?]
  | scalar char =>
    obtain ⟨_, ⟨hascend, hranges⟩, _⟩ := tables_agree
    show inRanges wordRanges char.toNat = true ↔ _
    constructor
    · intro h
      have hin := exists_of_inRanges h
      rw [← hranges, exists_mem_rangesOf] at hin
      obtain ⟨e, he, ⟨hfirst, hlast⟩, hpasses⟩ := hin
      exact ⟨e.2.2, categoryIn_of_mem categoryRanges_ascend he hfirst hlast, bne_iff_ne.mp hpasses⟩
    · rintro ⟨category, hcategory, hmark⟩
      obtain ⟨e, he, hn, rfl⟩ := exists_of_categoryIn hcategory
      have hin : ∃ r ∈ rangesOf (· != .M) categoryRanges, r.1 ≤ char.toNat ∧ char.toNat ≤ r.2 :=
        exists_mem_rangesOf.mpr ⟨e, he, hn, bne_iff_ne.mpr hmark⟩
      rw [hranges] at hin
      obtain ⟨r, hr, hfirst, hlast⟩ := hin
      exact inRanges_of_mem hascend hr hfirst hlast

theorem isDigit_of_category? (h : c.category? = some .Nd) : c.isDigit = true := by
  obtain ⟨char, rfl, e, he, hn, hdecimal⟩ := scalar_of_category? h
  obtain ⟨_, _, ⟨hascend, hdigits⟩, _⟩ := tables_agree
  have hrange := List.all_eq_true.mp hdigits e he
  rw [hdecimal, bne_self_eq_false, Bool.false_or, List.any_eq_true] at hrange
  obtain ⟨r, hr, hbounds⟩ := hrange
  rw [Bool.and_eq_true, Nat.ble_eq, Nat.ble_eq] at hbounds
  exact inRanges_of_mem hascend hr (by omega) (by omega)

theorem isOtherNumber_iff : c.isOtherNumber = true ↔ c.category? = some .No := beq_iff_eq

theorem isWord_of_isOtherNumber (h : c.isOtherNumber = true) : c.isWord = true :=
  isWord_iff.mpr ⟨.No, isOtherNumber_iff.mp h, by decide⟩

/-- **Of word characters, only other numbers may not stand in an identifier.** -/
theorem opensIdentifier_or_isDigit (hword : c.isWord = true) (hnumber : c.isOtherNumber = false) :
    c.isIdentifierPart = true ∧ (c.opensIdentifier = true ∨ c.isDigit = true) := by
  obtain ⟨category, hcategory, hmark⟩ := isWord_iff.mp hword
  cases category with
  | L => simp [isIdentifierPart, opensIdentifier, hcategory]
  | Nl => simp [isIdentifierPart, opensIdentifier, hcategory]
  | Nd => exact ⟨by simp [isIdentifierPart, hcategory], Or.inr (isDigit_of_category? hcategory)⟩
  | No => exact absurd hnumber (by simp [isOtherNumber, hcategory])
  | M => exact absurd rfl hmark

theorem not_isIdentifierPart_of_isOtherNumber (h : c.isOtherNumber = true) :
    c.isIdentifierPart = false := by
  have hcategory := isOtherNumber_iff.mp h
  have hunderscore : c ≠ .scalar '_' := by
    rintro rfl
    exact absurd h (by decide)
  simp [isIdentifierPart, opensIdentifier, hcategory, hunderscore]

/-! ## Upper case -/

/-- What upper case makes of word characters may open an identifier. -/
theorem opensIdentifier_of_mem_upperCaseTargets {r : Nat × Nat} (hr : r ∈ upperCaseTargets)
    {char : Char} (hfirst : r.1 ≤ char.toNat) (hlast : char.toNat ≤ r.2) :
    (scalar char).opensIdentifier = true := by
  obtain ⟨_, _, _, _, hletters, _⟩ := tables_agree
  have hsorted := (List.mem_insertionSort fun r s : Nat × Nat => r.1 ≤ s.1).mpr hr
  obtain ⟨e, he, hopens, hlow, hhigh⟩ := exists_of_sweep hletters hsorted
  have hfound : (scalar char).category? = some e.2.2 :=
    categoryIn_of_mem categoryRanges_ascend he (by omega) (by omega)
  rw [opensIdentifier, hfound]
  rcases (Bool.or_eq_true _ _).mp hopens with h | h <;> simp [eq_of_beq h]

theorem ne_circledRun {char : Char} (hword : (scalar char).isWord = true) {run : CaseRun}
    (htakes : run.Takes char.toNat) : run ≠ circledRun := by
  rintro rfl
  obtain ⟨hfirst, hlast, _⟩ := htakes
  have hin : inRanges wordRanges char.toNat = true := hword
  obtain ⟨r, hr, hlow, hhigh⟩ := exists_of_inRanges hin
  have hapart := List.all_eq_true.mp tables_agree.2.2.2.1 r hr
  rw [Bool.or_eq_true, Nat.blt_eq, Nat.blt_eq] at hapart
  omega

/-- A character has one category, so an entry that passes is not that of another number. -/
theorem not_mem_of_isOtherNumber {char : Char} (h : (scalar char).isOtherNumber = true)
    {rs : List (Nat × Nat)} (hsweep : sweep (· != .No) categoryRanges rs = true) {r : Nat × Nat}
    (hr : r ∈ rs) : ¬ (r.1 ≤ char.toNat ∧ char.toNat ≤ r.2) := by
  rintro ⟨hfirst, hlast⟩
  obtain ⟨e, he, hpasses, hlow, hhigh⟩ := exists_of_sweep hsweep hr
  have hfound : (scalar char).category? = some e.2.2 :=
    categoryIn_of_mem categoryRanges_ascend he (by omega) (by omega)
  rw [isOtherNumber_iff.mp h] at hfound
  exact bne_iff_ne.mp hpasses (Option.some.inj hfound).symm

theorem upperCase_of_isOtherNumber (h : c.isOtherNumber = true) : c.upperCase = [c] := by
  obtain ⟨char, rfl, _⟩ := scalar_of_category? (isOtherNumber_iff.mp h)
  obtain ⟨_, _, _, _, _, _, hruns, hexpansions⟩ := tables_agree
  refine upperCase_of_stays (fun run hrun htakes => ?_) fun e he heq => ?_
  · have hcircled := ne_circledRun (isWord_of_isOtherNumber h) htakes
    have hmem : run ∈ upperCaseRuns.filter (· != circledRun) :=
      List.mem_filter.mpr ⟨hrun, bne_iff_ne.mpr hcircled⟩
    exact not_mem_of_isOtherNumber h hruns (List.mem_map_of_mem hmem) ⟨htakes.1, htakes.2.1⟩
  · have hmem := List.mem_map_of_mem (f := fun e : Nat × List Nat => (e.1, e.1)) he
    exact not_mem_of_isOtherNumber h hexpansions hmem ⟨heq.le, heq.ge⟩

/-- **Upper case leaves a word character as it is, or makes letters and marks of it.** -/
theorem upperCase_cases (hword : c.isWord = true) : c.upperCase = [c] ∨
    ∃ first rest, c.upperCase = first :: rest ∧ first.opensIdentifier = true ∧
      ∀ d ∈ rest, d.isIdentifierPart = true := by
  cases c with
  | surrogate half => exact Or.inl rfl
  | scalar char =>
    rw [upperCase, SampleTypes.upperCase]
    -- A form of several characters is in the one table, a form of one character in the other.
    cases hexp : lookupAscending upperCaseExpansions char.toNat with
    | some expansion =>
      have hmem := mem_of_lookupAscending hexp
      obtain ⟨_, _, _, _, _, hparts, _⟩ := tables_agree
      have hrest := List.all_eq_true.mp hparts _ hmem
      have hvalid := (upperCaseExpansions_solid _ hmem).2
      have htarget : (expansion.headD 0, expansion.headD 0) ∈ upperCaseTargets :=
        List.mem_append_right _ (List.mem_map_of_mem hmem)
      cases expansion with
      | nil => exact absurd rfl (upperCaseExpansions_solid _ hmem).1
      | cons first rest =>
        have hfirst := toNat_ofNat_of_valid (Or.inl (hvalid first List.mem_cons_self).1)
        refine Or.inr ⟨_, _, rfl, ?_, fun d hd => ?_⟩
        · exact opensIdentifier_of_mem_upperCaseTargets htarget hfirst.ge hfirst.le
        · obtain ⟨_, hmem, rfl⟩ := List.mem_map.mp hd
          obtain ⟨n, hn, rfl⟩ := List.mem_map.mp hmem
          exact List.all_eq_true.mp hrest n hn
    | none =>
      dsimp only
      rcases CaseRun.apply_cases upperCaseRuns char.toNat with hstays | ⟨run, hrun, htakes, hmoved⟩
      · rw [hstays, Char.ofNat_toNat]
        exact Or.inl rfl
      · refine Or.inr ⟨_, _, rfl, ?_, by simp⟩
        have hvalid := upperCaseRuns_valid run hrun
        have hcircled := ne_circledRun hword htakes
        obtain ⟨hfirst, hlast, _⟩ := htakes
        have hchar := toNat_ofNat_of_valid (n := CaseRun.apply upperCaseRuns char.toNat) (by omega)
        have htarget : (run.target, run.target + (run.last - run.first)) ∈ upperCaseTargets := by
          refine List.mem_append_left _ (List.mem_map.mpr ⟨run, ?_, rfl⟩)
          exact List.mem_filter.mpr ⟨hrun, bne_iff_ne.mpr hcircled⟩
        exact opensIdentifier_of_mem_upperCaseTargets htarget (by omega) (by omega)

end CodePoint

end SampleTypes
