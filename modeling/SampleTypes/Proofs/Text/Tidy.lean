import Mathlib.Data.List.DropRight
import SampleTypes.Proofs.Lists
import SampleTypes.Proofs.Text.Lines

/-!
# What the layout makes of any text

The layout is applied to whatever the pieces of generated code come to, so what it does is said for
every text. The lines that are not blank, each with the number of blank lines before it, are all that
matters of a text (`Text.spaced`), and of that

> **the layout keeps every line that is not blank, and of the blank lines between two of them one**

(`Text.tidy_normalises`). What it makes is neat unless it is empty, so to apply it again changes nothing.
-/

set_option autoImplicit false

namespace SampleTypes

open CodePoint (lineFeed)

namespace Text

/-! ## White space at the end of a line -/

theorem trimEnd_eq_rdropWhile (l : Text) : l.trimEnd = l.rdropWhile CodePoint.isBlank := rfl

theorem trimEnd_isPrefix (l : Text) : l.trimEnd <+: l := List.rdropWhile_prefix _ l

theorem trimEnd_eq_nil_iff {l : Text} : l.trimEnd = [] ↔ l.isBlank = true := by
  rw [trimEnd_eq_rdropWhile, List.rdropWhile_eq_nil_iff, isBlank, List.all_eq_true]

@[simp]
theorem trimEnd_trimEnd (l : Text) : l.trimEnd.trimEnd = l.trimEnd :=
  List.rdropWhile_idempotent _ l

@[simp]
theorem isBlank_trimEnd (l : Text) : l.trimEnd.isBlank = l.isBlank := by
  rw [Bool.eq_iff_iff, ← trimEnd_eq_nil_iff, ← trimEnd_eq_nil_iff, trimEnd_trimEnd]

theorem isEmpty_of_not_isBlank {l : Text} (h : l.isBlank = false) : l.isEmpty = false := by
  cases l with
  | nil => exact absurd h (by simp [isBlank])
  | cons c l => rfl

/-! ## Lines with the blank ones before them -/

/-- The lines that are not blank, each with the number of blank lines that stand directly before it. -/
def spaced : List Text → List (Nat × Text)
  | [] => []
  | l :: ls => if l.isBlank then (spaced ls).modifyHead (Prod.map (· + 1) id) else (0, l) :: spaced ls

variable {l : Text} {ls : List Text}

theorem spaced_cons_of_isBlank (h : l.isBlank = true) (ls : List Text) :
    spaced (l :: ls) = (spaced ls).modifyHead (Prod.map (· + 1) id) := by
  rw [spaced, if_pos h]

theorem spaced_cons_of_not_isBlank (h : l.isBlank = false) (ls : List Text) :
    spaced (l :: ls) = (0, l) :: spaced ls := by
  rw [spaced, if_neg (by simp [h])]

theorem map_snd_modifyHead (f : Nat → Nat) (ps : List (Nat × Text)) :
    (ps.modifyHead (Prod.map f id)).map Prod.snd = ps.map Prod.snd := by
  cases ps <;> rfl

theorem map_snd_spaced (ls : List Text) :
    (spaced ls).map Prod.snd = ls.filter fun l => !l.isBlank := by
  induction ls with
  | nil => rfl
  | cons l ls ih =>
    cases h : l.isBlank with
    | false =>
      rw [spaced_cons_of_not_isBlank h, List.map_cons, ih, List.filter_cons_of_pos (by simp [h])]
    | true =>
      rw [spaced_cons_of_isBlank h, map_snd_modifyHead, List.filter_cons_of_neg (by simp [h]), ih]

theorem spaced_eq_nil_iff : spaced ls = [] ↔ ∀ l ∈ ls, l.isBlank = true := by
  rw [← List.map_eq_nil_iff (f := Prod.snd), map_snd_spaced, List.filter_eq_nil_iff]
  simp

/-- To trim the lines leaves the blank lines between them. -/
theorem spaced_map_trimEnd (ls : List Text) :
    spaced (ls.map trimEnd) = (spaced ls).map (Prod.map id trimEnd) := by
  induction ls with
  | nil => rfl
  | cons l ls ih =>
    cases h : l.isBlank with
    | false =>
      rw [List.map_cons, spaced_cons_of_not_isBlank (by simp [h]), spaced_cons_of_not_isBlank h, ih]
      rfl
    | true =>
      rw [List.map_cons, spaced_cons_of_isBlank (by simp [h]), spaced_cons_of_isBlank h, ih]
      cases spaced ls <;> rfl

/-! ## The steps of the layout -/

/-- The lines are trimmed, so that those which are blank are empty. -/
def Trimmed (ls : List Text) : Prop := ∀ l ∈ ls, l.trimEnd = l

theorem Trimmed.tail (h : Trimmed (l :: ls)) : Trimmed ls := (List.forall_mem_cons.mp h).2

theorem Trimmed.isBlank_iff (h : Trimmed ls) (hl : l ∈ ls) : l.isBlank = true ↔ l = [] := by
  rw [← trimEnd_eq_nil_iff, h l hl]

theorem mem_of_mem_squeeze (h : l ∈ squeeze ls) : l ∈ ls := by
  induction ls with
  | nil => exact h
  | cons m ls ih =>
    rw [squeeze_cons] at h
    split at h
    · exact List.mem_cons_of_mem m (ih h)
    · rcases List.mem_cons.mp h with rfl | h
      · exact List.mem_cons_self
      · exact List.mem_cons_of_mem m (ih h)

theorem isChain_squeeze (ls : List Text) :
    (squeeze ls).IsChain fun l m => l = [] → m ≠ [] := by
  induction ls with
  | nil => exact List.IsChain.nil
  | cons l ls ih =>
    rw [squeeze_cons]
    split
    · exact ih
    · rename_i hsingle
      refine List.isChain_cons.mpr ⟨fun m hm hl hempty => hsingle ?_, ih⟩
      subst hl hempty
      simp [Option.mem_def.mp hm]

/-- The first line is kept, be it blank or not. -/
theorem head?_squeeze (ls : List Text) : (squeeze ls).head? = ls.head? := by
  induction ls with
  | nil => rfl
  | cons l ls ih =>
    rw [squeeze_cons]
    split
    · rename_i hdoubled
      rw [Bool.and_eq_true, List.isEmpty_iff, beq_iff_eq] at hdoubled
      rw [hdoubled.1, hdoubled.2]
      rfl
    · rfl

/-- Of the blank lines before a line, one is kept. -/
theorem spaced_squeeze (h : Trimmed ls) :
    spaced (squeeze ls) = (spaced ls).map (Prod.map (min · 1) id) := by
  induction ls with
  | nil => rfl
  | cons l ls ih =>
    specialize ih h.tail
    rw [squeeze_cons, head?_squeeze]
    cases hblank : l.isBlank with
    | false =>
      rw [if_neg (by simp [isEmpty_of_not_isBlank hblank]), spaced_cons_of_not_isBlank hblank,
        spaced_cons_of_not_isBlank hblank, ih]
      rfl
    | true =>
      obtain rfl : l = [] := (h.isBlank_iff List.mem_cons_self).mp hblank
      rw [spaced_cons_of_isBlank hblank]
      cases ls with
      | nil => rfl
      | cons m ls =>
        cases hnext : m.isBlank with
        | true =>
          -- The line is one more of a run, of which one is kept already.
          obtain rfl : m = [] := (h.tail.isBlank_iff List.mem_cons_self).mp hnext
          rw [if_pos (by simp), ih, spaced_cons_of_isBlank hnext]
          cases spaced ls with
          | nil => rfl
          | cons p ps => simp [Prod.map]
        | false =>
          -- The line is the first that is kept before the next.
          have hne : m ≠ [] := by simpa using isEmpty_of_not_isBlank hnext
          rw [if_neg (by simp [hne]), spaced_cons_of_isBlank hblank, ih,
            spaced_cons_of_not_isBlank hnext]
          rfl

/-- Before the first line, none is kept. -/
theorem spaced_dropWhile (h : Trimmed ls) : spaced (ls.dropWhile List.isEmpty) =
    (spaced ls).modifyHead (Prod.map (fun _ => 0) id) := by
  induction ls with
  | nil => rfl
  | cons l ls ih =>
    cases hblank : l.isBlank with
    | false =>
      rw [List.dropWhile_cons_of_neg (by simp [isEmpty_of_not_isBlank hblank]),
        spaced_cons_of_not_isBlank hblank]
      rfl
    | true =>
      obtain rfl : l = [] := (h.isBlank_iff List.mem_cons_self).mp hblank
      rw [List.dropWhile_cons_of_pos rfl, ih h.tail, spaced_cons_of_isBlank hblank,
        List.modifyHead_modifyHead]
      rfl

/-- Blank lines after the last line are not before any. -/
theorem spaced_snoc_of_isBlank (ls : List Text) (h : l.isBlank = true) :
    spaced (ls ++ [l]) = spaced ls := by
  induction ls with
  | nil => exact spaced_cons_of_isBlank h []
  | cons m ls ih => rw [List.cons_append, spaced, ih, ← spaced]

theorem spaced_rdropWhile (ls : List Text) : spaced (ls.rdropWhile List.isEmpty) = spaced ls := by
  induction ls using List.reverseRecOn with
  | nil => rfl
  | append_singleton ls l ih =>
    cases l with
    | nil => rw [List.rdropWhile_concat_pos _ _ _ rfl, ih, spaced_snoc_of_isBlank ls rfl]
    | cons c l => rw [List.rdropWhile_concat_neg _ _ _ (by simp)]

theorem trimLines_eq (ls : List Text) :
    trimLines ls = (ls.dropWhile List.isEmpty).rdropWhile List.isEmpty := rfl

theorem trimLines_isInfix (ls : List Text) : trimLines ls <:+: ls :=
  (List.rdropWhile_prefix _ _).isInfix.trans (List.dropWhile_suffix _).isInfix

/-! ## The layout -/

/-- The lines to which the layout comes. -/
def laidOut (t : Text) : List Text := trimLines (squeeze (t.lines.map trimEnd))

theorem tidy_eq (t : Text) : t.tidy = ofLines t.laidOut := rfl

theorem trimmed_lines (t : Text) : Trimmed (t.lines.map trimEnd) := by
  simp [Trimmed]

theorem mem_of_mem_laidOut {t : Text} (h : l ∈ t.laidOut) : l ∈ t.lines.map trimEnd :=
  mem_of_mem_squeeze ((trimLines_isInfix _).subset h)

theorem spaced_laidOut (t : Text) : spaced t.laidOut =
    ((spaced t.lines).map (Prod.map (min · 1) trimEnd)).modifyHead (Prod.map (fun _ => 0) id) := by
  have hsqueezed : Trimmed (squeeze (t.lines.map trimEnd)) :=
    fun l hl => t.trimmed_lines l (mem_of_mem_squeeze hl)
  rw [laidOut, trimLines_eq, spaced_rdropWhile, spaced_dropWhile hsqueezed,
    spaced_squeeze t.trimmed_lines, spaced_map_trimEnd, List.map_map, Prod.map_comp_map]
  rfl

theorem laidOut_eq_nil_iff {t : Text} : t.laidOut = [] ↔ ∀ l ∈ t.lines, l.isBlank = true := by
  have hspaced := spaced_laidOut t
  rw [← spaced_eq_nil_iff]
  constructor
  · intro h
    rw [h] at hspaced
    exact List.map_eq_nil_iff.mp (List.modifyHead_eq_nil_iff.mp hspaced.symm)
  · intro h
    rw [h] at hspaced
    have hblank := spaced_eq_nil_iff.mp hspaced
    -- The last line would be blank, and it is not empty.
    by_contra hne
    have hlast := List.getLast_mem hne
    have hempty := (Trimmed.isBlank_iff (fun l hl => t.trimmed_lines l (mem_of_mem_laidOut hl))
      hlast).mp (hblank _ hlast)
    exact List.rdropWhile_last_not _ _ hne (List.isEmpty_iff.mpr hempty)

/-- **What is laid out is neat**, unless nothing is. -/
theorem neat_laidOut {t : Text} (hne : t.laidOut ≠ []) : Neat t.laidOut where
  nonempty := hne
  unbroken := by
    intro l hl
    obtain ⟨m, hm, rfl⟩ := List.mem_map.mp (mem_of_mem_laidOut hl)
    exact fun hbroken => lineFeed_notMem_of_mem_lines m hm ((trimEnd_isPrefix m).subset hbroken)
  trimmed := fun l hl => t.trimmed_lines l (mem_of_mem_laidOut hl)
  sparse := by
    obtain ⟨before, after, hparts⟩ := trimLines_isInfix (squeeze (t.lines.map trimEnd))
    have hchain := isChain_squeeze (t.lines.map trimEnd)
    rw [← hparts] at hchain
    exact hchain.left_of_append.right_of_append
  opens := by
    intro hopens
    obtain ⟨last, hlast⟩ := List.rdropWhile_prefix List.isEmpty
      ((squeeze (t.lines.map trimEnd)).dropWhile List.isEmpty)
    have hfirst : [] ∈ ((squeeze (t.lines.map trimEnd)).dropWhile List.isEmpty).head? := by
      rw [← hlast, ← trimLines_eq, ← laidOut, List.head?_append_of_ne_nil _ hne]
      exact hopens
    exact absurd (eq_false_of_mem_head?_dropWhile [] hfirst) (by simp)
  closes := by
    intro hcloses
    refine List.rdropWhile_last_not _ _ hne (List.isEmpty_iff.mpr ?_)
    exact Option.some.inj ((List.getLast?_eq_some_getLast hne).symm.trans hcloses)

/-- **The layout is a normal form.** Its lines that are not blank are those of the text, trimmed and in
their order; between two of them stands one empty line if any blank lines stood there, none otherwise, and
none stands at either end. So to lay out a text again changes nothing, and a text comes to nothing iff all
of its lines are blank. -/
theorem tidy_normalises (t : Text) :
    ((tidy t).lines.filter fun l => !l.isBlank) = (t.lines.filter fun l => !l.isBlank).map trimEnd ∧
      spaced (tidy t).lines =
        ((spaced t.lines).map (Prod.map (min · 1) trimEnd)).modifyHead (Prod.map (fun _ => 0) id) ∧
      (tidy t = [] ∨ Neat (tidy t).lines) ∧
      tidy (tidy t) = tidy t ∧
      (tidy t = [] ↔ ∀ l ∈ t.lines, l.isBlank = true) := by
  have hspaced : spaced (tidy t).lines = spaced t.laidOut := by
    by_cases hnone : t.laidOut = []
    · rw [tidy_eq, hnone]
      rfl
    · rw [tidy_eq, (neat_laidOut hnone).lines_ofLines]
  rw [spaced_laidOut] at hspaced
  refine ⟨?_, hspaced, ?_⟩
  · rw [← map_snd_spaced, ← map_snd_spaced, hspaced, map_snd_modifyHead, List.map_map, List.map_map]
    rfl
  · rw [← laidOut_eq_nil_iff, tidy_eq]
    by_cases hnone : t.laidOut = []
    · rw [hnone]
      exact ⟨Or.inl rfl, rfl, iff_of_true rfl rfl⟩
    · have hneat := neat_laidOut hnone
      rw [hneat.lines_ofLines]
      exact ⟨Or.inr hneat, hneat.tidy_ofLines, iff_of_false hneat.ofLines_ne_nil hnone⟩

example : tidy "\n a \r\n\n\x0c\n\nb\u00a0\n" = (" a\n\nb" : Text) := by decide

end Text

end SampleTypes
