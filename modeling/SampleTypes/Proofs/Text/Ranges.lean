import SampleTypes.Text.Ranges

/-!
# Looking up in ranges and runs

A table of characters is used through its look-up, and what is known of a table is known of its
entries. The lemmas here lead from a look-up to the entry that answered it: the range in which a number
lies, the run that moved it, and **how far within the run** (`CaseRun.apply_cases`). A number that no
run takes stays (`CaseRun.apply_of_stays`). The way back, from the range to the look-up, needs that the
ranges ascend (`inRanges_of_mem`).
-/

set_option autoImplicit false

namespace SampleTypes

theorem exists_of_inRanges {rs : List (Nat × Nat)} {n : Nat} (h : inRanges rs n = true) :
    ∃ r ∈ rs, r.1 ≤ n ∧ n ≤ r.2 := by
  induction rs with
  | nil => exact absurd h (by simp [inRanges])
  | cons r rs ih =>
    obtain ⟨first, last⟩ := r
    simp only [inRanges] at h
    split at h
    · exact absurd h (by simp)
    · split at h
      · exact ⟨(first, last), List.mem_cons_self, by omega, by omega⟩
      · obtain ⟨r, hr, hn⟩ := ih h
        exact ⟨r, List.mem_cons_of_mem _ hr, hn⟩

/-- Ranges that ascend, from a number on: each begins after the one before it has ended. -/
def ascendsFrom : Nat → List (Nat × Nat) → Bool
  | _, [] => true
  | low, (first, last) :: rest =>
    decide (low ≤ first) && decide (first ≤ last) && ascendsFrom (last + 1) rest

theorem le_of_ascendsFrom {low : Nat} {rs : List (Nat × Nat)} (h : ascendsFrom low rs = true) :
    ∀ r ∈ rs, low ≤ r.1 := by
  induction rs generalizing low with
  | nil => simp
  | cons r rs ih =>
    simp only [ascendsFrom, Bool.and_eq_true, decide_eq_true_eq] at h
    obtain ⟨⟨hlow, hvalid⟩, hrest⟩ := h
    refine List.forall_mem_cons.mpr ⟨hlow, fun s hs => ?_⟩
    have := ih hrest s hs
    omega

/-- In ranges that ascend, a number is found in whichever it lies. -/
theorem inRanges_of_mem {low n : Nat} {rs : List (Nat × Nat)} (h : ascendsFrom low rs = true)
    {r : Nat × Nat} (hr : r ∈ rs) (hfirst : r.1 ≤ n) (hlast : n ≤ r.2) : inRanges rs n = true := by
  induction rs generalizing low with
  | nil => exact absurd hr (by simp)
  | cons s rs ih =>
    simp only [ascendsFrom, Bool.and_eq_true, decide_eq_true_eq] at h
    obtain ⟨⟨_, hvalid⟩, hrest⟩ := h
    rw [inRanges]
    rcases List.mem_cons.mp hr with rfl | hr
    · rw [if_neg (by omega), if_pos hlast]
    · have hafter := le_of_ascendsFrom hrest r hr
      rw [if_neg (by omega), if_neg (by omega)]
      exact ih hrest hr

theorem mem_of_lookupAscending {α : Type} {entries : List (Nat × α)} {n : Nat} {value : α}
    (h : lookupAscending entries n = some value) : (n, value) ∈ entries := by
  induction entries with
  | nil => exact absurd h (by simp [lookupAscending])
  | cons entry entries ih =>
    obtain ⟨key, other⟩ := entry
    simp only [lookupAscending] at h
    split at h
    · exact absurd h (by simp)
    · split at h
      · rename_i heq
        rw [heq, ← Option.some.inj h]
        exact List.mem_cons_self
      · exact List.mem_cons_of_mem _ (ih h)

namespace CaseRun

/-- Whether a run takes a number along. -/
def Takes (run : CaseRun) (n : Nat) : Prop :=
  run.first ≤ n ∧ n ≤ run.last ∧ (n - run.first) % run.step = 0

/-- A number stays, or moves as far into the target of a run as it stood in the run. -/
theorem apply_cases (runs : List CaseRun) (n : Nat) : apply runs n = n ∨
    ∃ run ∈ runs, run.Takes n ∧ apply runs n = run.target + (n - run.first) := by
  induction runs with
  | nil => exact Or.inl rfl
  | cons run runs ih =>
    have hlater : apply runs n = n ∨ ∃ other ∈ run :: runs, other.Takes n ∧
        apply runs n = other.target + (n - other.first) := by
      rcases ih with h | ⟨other, hother, h⟩
      · exact Or.inl h
      · exact Or.inr ⟨other, List.mem_cons_of_mem _ hother, h⟩
    rw [apply]
    split
    · exact Or.inl rfl
    · split
      · split
        · rename_i hlow hhigh hstep
          exact Or.inr ⟨run, List.mem_cons_self, ⟨Nat.le_of_not_lt hlow, hhigh, hstep⟩, rfl⟩
        · exact hlater
      · exact hlater

theorem apply_of_stays {runs : List CaseRun} {n : Nat} (h : ∀ run ∈ runs, ¬ run.Takes n) :
    apply runs n = n := by
  rcases apply_cases runs n with hstays | ⟨run, hrun, htakes, _⟩
  · exact hstays
  · exact absurd htakes (h run hrun)

end CaseRun

theorem toNat_ofNat_of_valid {n : Nat} (h : n < 0xD800 ∨ 0xDFFF < n ∧ n < 0x110000) :
    (Char.ofNat n).toNat = n := by
  have hvalid : n.isValidChar := h
  rw [Char.ofNat, dif_pos hvalid]
  rfl

end SampleTypes
