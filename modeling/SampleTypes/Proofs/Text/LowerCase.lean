import SampleTypes.Proofs.Text.Ranges
import SampleTypes.Text.LowerCase

/-!
# Lower case once is enough

> **A text in lower case is its own lower-case form.**

That is not plain from the mapping: the form of a sigma depends on what stands around it, and the
lower-case form of a letter may be longer than the letter. But neither the great sigma nor any other
letter that moves is ever a form of something.
-/

set_option autoImplicit false

namespace SampleTypes

/-! ## Runs -/

namespace CaseRun

/-- Whether nothing that one run has moved is moved again by another. The two may lie in each other
where both go by every second number. -/
def avoids (run other : CaseRun) : Bool :=
  Nat.blt (run.target + (run.last - run.first)) other.first || Nat.blt other.last run.target ||
    (Nat.beq other.step 2 && (Nat.beq run.step 2 || Nat.beq run.first run.last) &&
      Nat.beq ((run.target + other.first) % 2) 1)

theorem not_takes_of_avoids {run other : CaseRun} {n : Nat} (h : run.avoids other = true)
    (htakes : run.Takes n) : ¬ other.Takes (run.target + (n - run.first)) := by
  rintro ⟨hlow, hhigh, heven⟩
  obtain ⟨hfirst, hlast, hstep⟩ := htakes
  simp only [avoids, Bool.or_eq_true, Bool.and_eq_true, Nat.blt_eq, Nat.beq_eq] at h
  rcases h with (h | h) | ⟨⟨htwo, hrunStep⟩, hodd⟩
  · omega
  · omega
  · rw [htwo] at heven
    rcases hrunStep with hrunTwo | hone
    · rw [hrunTwo] at hstep
      omega
    · omega

end CaseRun

/-- The letters whose lower-case form is not found in the runs: the great sigma and the dotted I. -/
def specialCapitals : List Char := ['Σ', 'İ']

/-- What their lower-case forms are made of. -/
def specialForms : List Char := ['ς', 'σ', 'i', '\u0307']

/-- Whether what a run has moved is made of characters, and none of them a special capital; and whether
the run leaves the forms of these alone. -/
def CaseRun.isProper (run : CaseRun) : Bool :=
  (Nat.blt (run.target + (run.last - run.first)) 0xD800 ||
    Nat.blt 0xDFFF run.target && Nat.blt (run.target + (run.last - run.first)) 0x110000) &&
  (specialCapitals.all fun c =>
    Nat.blt c.toNat run.target || Nat.blt (run.target + (run.last - run.first)) c.toNat) &&
  specialForms.all fun c => Nat.blt c.toNat run.first || Nat.blt run.last c.toNat

theorem lowerCaseRuns_settle :
    (lowerCaseRuns.all fun run => run.isProper && lowerCaseRuns.all run.avoids) = true := by
  decide +kernel

/-! ## Texts -/

/-- A code point that has no lower-case form but itself, wherever it stands. -/
def CodePoint.IsSettled : CodePoint → Prop
  | .scalar c => c ∉ specialCapitals ∧ CaseRun.apply lowerCaseRuns c.toNat = c.toNat
  | .surrogate _ => True

theorem isSettled_ofNat_apply {c : Char} (hc : c ∉ specialCapitals) :
    (CodePoint.scalar (Char.ofNat (CaseRun.apply lowerCaseRuns c.toNat))).IsSettled := by
  rcases CaseRun.apply_cases lowerCaseRuns c.toNat with hstays | ⟨run, hrun, htakes, hmoved⟩
  · rw [hstays, Char.ofNat_toNat]
    exact ⟨hc, hstays⟩
  · have hsettle := List.all_eq_true.mp lowerCaseRuns_settle run hrun
    simp only [CaseRun.isProper, Bool.and_eq_true, Bool.or_eq_true, Nat.blt_eq,
      List.all_eq_true] at hsettle
    obtain ⟨⟨⟨hvalid, hspecial⟩, _⟩, havoids⟩ := hsettle
    have hfirst : run.first ≤ c.toNat := htakes.1
    have hlast : c.toNat ≤ run.last := htakes.2.1
    have hnumber : (Char.ofNat (run.target + (c.toNat - run.first))).toNat =
        run.target + (c.toNat - run.first) := toNat_ofNat_of_valid (by omega)
    rw [hmoved]
    refine ⟨fun hmem => ?_, ?_⟩
    · have hapart := hspecial _ hmem
      rw [hnumber] at hapart
      omega
    · rw [hnumber]
      refine CaseRun.apply_of_stays fun other hother => ?_
      exact CaseRun.not_takes_of_avoids (havoids other hother) htakes

theorem isSettled_of_mem_specialForms {c : Char} (h : c ∈ specialForms) :
    (CodePoint.scalar c).IsSettled := by
  refine ⟨?_, ?_⟩
  · simp only [specialForms, List.mem_cons, List.not_mem_nil, or_false] at h
    rcases h with rfl | rfl | rfl | rfl <;> simp [specialCapitals]
  refine CaseRun.apply_of_stays fun run hrun htakes => ?_
  have hsettle := List.all_eq_true.mp lowerCaseRuns_settle run hrun
  simp only [CaseRun.isProper, Bool.and_eq_true, Bool.or_eq_true, Nat.blt_eq,
    List.all_eq_true] at hsettle
  have hapart := hsettle.1.2 c h
  obtain ⟨hfirst, hlast, _⟩ := htakes
  omega

theorem isSettled_of_mem_lowerCaseAt {before after : Text} {c : Char} :
    ∀ d ∈ Text.ofChars (lowerCaseAt before c after), d.IsSettled := by
  intro d hd
  obtain ⟨e, he, rfl⟩ := List.mem_map.mp hd
  rw [lowerCaseAt] at he
  split at he
  · refine isSettled_of_mem_specialForms ?_
    split at he <;> simp_all [specialForms]
  · split at he
    · exact isSettled_of_mem_specialForms (by simp_all [specialForms])
    · rename_i hsigma hdotted
      rw [List.mem_singleton.mp he]
      exact isSettled_ofNat_apply (by simp [specialCapitals, hsigma, hdotted])

namespace Text

theorem isSettled_of_mem_lowerCaseAfter (before t : Text) :
    ∀ c ∈ lowerCaseAfter before t, c.IsSettled := by
  induction t generalizing before with
  | nil => simp [lowerCaseAfter]
  | cons c t ih =>
    cases c with
    | surrogate half => exact List.forall_mem_cons.mpr ⟨trivial, ih _⟩
    | scalar c =>
      intro d hd
      rcases List.mem_append.mp hd with hd | hd
      · exact isSettled_of_mem_lowerCaseAt d hd
      · exact ih _ d hd

theorem lowerCaseAfter_of_isSettled (before : Text) {t : Text} (h : ∀ c ∈ t, c.IsSettled) :
    lowerCaseAfter before t = t := by
  induction t generalizing before with
  | nil => rfl
  | cons c t ih =>
    obtain ⟨hc, ht⟩ := List.forall_mem_cons.mp h
    cases c with
    | surrogate half => rw [lowerCaseAfter, ih _ ht]
    | scalar c =>
      obtain ⟨hspecial, hstays⟩ := hc
      have hform : lowerCaseAt before c t = [c] := by
        have hsigma : c ≠ 'Σ' := fun heq => hspecial (by simp [specialCapitals, heq])
        have hdotted : c ≠ 'İ' := fun heq => hspecial (by simp [specialCapitals, heq])
        rw [lowerCaseAt, if_neg hsigma, if_neg hdotted, hstays, Char.ofNat_toNat]
      rw [lowerCaseAfter, hform, ih _ ht]
      rfl

/-- **A text in lower case is its own lower-case form.** -/
@[simp]
theorem lowerCase_lowerCase (t : Text) : t.lowerCase.lowerCase = t.lowerCase :=
  lowerCaseAfter_of_isSettled [] (isSettled_of_mem_lowerCaseAfter [] t)

end Text

end SampleTypes
