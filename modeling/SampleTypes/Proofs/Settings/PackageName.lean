import Mathlib
import SampleTypes.Proofs.Lists
import SampleTypes.Proofs.Target.Layout
import SampleTypes.Settings.Warnings

/-!
# Package names

A package name is made of segments with single dots between them, and a segment is an ASCII letter or
an underscore with ASCII letters, digits and underscores after it (`PackageName.IsName`). The check of
settings for Java knows these names exactly, but for one thing: a line feed at the end is not noticed.

> **Nothing is said about a package iff it is a package name, perhaps with a line feed after it**, and
> only without the line feed is the package clause of the code one line.
-/

set_option autoImplicit false

namespace SampleTypes

open CodePoint (lineFeed)

namespace PackageName

/-! ## The grammar -/

/-- The dot between segments. -/
def dot : CodePoint := .scalar '.'

/-- An ASCII letter or an underscore. -/
inductive Opens : CodePoint → Prop
  | lower {c : Char} : 'a' ≤ c → c ≤ 'z' → Opens (.scalar c)
  | upper {c : Char} : 'A' ≤ c → c ≤ 'Z' → Opens (.scalar c)
  | underscore : Opens (.scalar '_')

/-- An ASCII letter, an underscore or an ASCII digit. -/
inductive Continues : CodePoint → Prop
  | opens {c : CodePoint} : Opens c → Continues c
  | digit {c : Char} : '0' ≤ c → c ≤ '9' → Continues (.scalar c)

/-- A segment of a package name. -/
inductive Segment : Text → Prop
  | cons {c : CodePoint} {t : Text} : Opens c → (∀ d ∈ t, Continues d) → Segment (c :: t)

/-- A package name: segments, at least one, with single dots between them. -/
def IsName (name : Text) : Prop :=
  ∃ segments : List Text, segments ≠ [] ∧ (∀ s ∈ segments, Segment s) ∧
    name = Text.join [dot] segments

/-! ## What the check accepts -/

theorem isLower_iff {c : Char} : c.isLower = true ↔ 'a' ≤ c ∧ c ≤ 'z' := by
  simp [Char.isLower, Char.le_def]

theorem isUpper_iff {c : Char} : c.isUpper = true ↔ 'A' ≤ c ∧ c ≤ 'Z' := by
  simp [Char.isUpper, Char.le_def]

theorem isDigit_iff {c : Char} : c.isDigit = true ↔ '0' ≤ c ∧ c ≤ '9' := by
  simp [Char.isDigit, Char.le_def]

theorem startsSegment_iff {c : CodePoint} : startsSegment c = true ↔ Opens c := by
  constructor
  · intro h
    cases c with
    | surrogate _ => cases h
    | scalar c =>
      simp only [startsSegment, Char.isAlpha, Bool.or_eq_true, decide_eq_true_eq, isUpper_iff,
        isLower_iff] at h
      rcases h with (h | h) | rfl
      · exact .upper h.1 h.2
      · exact .lower h.1 h.2
      · exact .underscore
  · intro h
    cases h with
    | lower hfirst hlast =>
      simp [startsSegment, Char.isAlpha, isLower_iff.mpr ⟨hfirst, hlast⟩]
    | upper hfirst hlast =>
      simp [startsSegment, Char.isAlpha, isUpper_iff.mpr ⟨hfirst, hlast⟩]
    | underscore => rfl

theorem continuesSegment_of_startsSegment {c : CodePoint} (h : startsSegment c = true) :
    continuesSegment c = true := by
  cases c with
  | surrogate _ => cases h
  | scalar c =>
    simp only [continuesSegment, startsSegment, Char.isAlphanum, Bool.or_eq_true] at h ⊢
    exact h.imp_left Or.inl

theorem continuesSegment_iff {c : CodePoint} : continuesSegment c = true ↔ Continues c := by
  constructor
  · intro h
    cases c with
    | surrogate _ => cases h
    | scalar c =>
      cases hdigit : c.isDigit with
      | true => exact .digit (isDigit_iff.mp hdigit).1 (isDigit_iff.mp hdigit).2
      | false =>
        refine .opens (startsSegment_iff.mp ?_)
        simpa [continuesSegment, startsSegment, Char.isAlphanum, hdigit] using h
  · intro h
    cases h with
    | opens hopens => exact continuesSegment_of_startsSegment (startsSegment_iff.mpr hopens)
    | digit hfirst hlast =>
      simp [continuesSegment, Char.isAlphanum, isDigit_iff.mpr ⟨hfirst, hlast⟩]

theorem isSegment_iff {t : Text} : isSegment t = true ↔ Segment t := by
  cases t with
  | nil => exact iff_of_false nofun nofun
  | cons c t =>
    simp only [isSegment, Bool.and_eq_true, List.all_eq_true, startsSegment_iff,
      continuesSegment_iff]
    constructor
    · rintro ⟨hopens, hrest⟩
      exact .cons hopens hrest
    · rintro ⟨hopens, hrest⟩
      exact ⟨hopens, hrest⟩

theorem Segment.continues {t : Text} (h : Segment t) : ∀ c ∈ t, Continues c := by
  cases h with
  | cons hopens hrest => exact List.forall_mem_cons.mpr ⟨.opens hopens, hrest⟩

theorem not_continues_dot : ¬ Continues dot := by
  rw [← continuesSegment_iff]
  decide

theorem isValid_iff {name : Text} : isValid name = true ↔ IsName name := by
  rw [isValid, Text.splitOn_eq_splitOn, List.all_eq_true]
  constructor
  · intro h
    exact ⟨List.splitOn dot name, List.splitOn_ne_nil dot name,
      fun s hs => isSegment_iff.mp (h s hs), (List.intercalate_splitOn dot).symm⟩
  · rintro ⟨segments, hne, hsegments, rfl⟩
    have hdots : ∀ s ∈ segments, dot ∉ s :=
      fun s hs hdot => not_continues_dot ((hsegments s hs).continues dot hdot)
    have hsplit : List.splitOn dot (Text.join [dot] segments) = segments :=
      List.splitOn_intercalate dot hdots hne
    intro s hs
    exact isSegment_iff.mpr (hsegments s (hsplit ▸ hs))

theorem IsName.continues {name : Text} (h : IsName name) : ∀ c ∈ name, Continues c ∨ c = dot := by
  obtain ⟨segments, -, hsegments, rfl⟩ := h
  induction segments with
  | nil => exact fun c hc => absurd hc List.not_mem_nil
  | cons s segments ih =>
    obtain ⟨hs, hrest⟩ := List.forall_mem_cons.mp hsegments
    have hfirst : ∀ c ∈ s, Continues c ∨ c = dot := fun c hc => Or.inl (hs.continues c hc)
    cases segments with
    | nil => simpa [Text.join] using hfirst
    | cons s' segments =>
      rw [Text.join, List.intercalate_cons_cons]
      intro c hc
      rcases List.mem_append.mp hc with hc | hc
      · rcases List.mem_append.mp hc with hc | hc
        · exact hfirst c hc
        · exact Or.inr (List.mem_singleton.mp hc)
      · exact ih hrest c hc

theorem IsName.lineFeed_notMem {name : Text} (h : IsName name) : lineFeed ∉ name := by
  intro hmem
  rcases h.continues lineFeed hmem with hcontinues | hdot
  · rw [← continuesSegment_iff] at hcontinues
    cases hcontinues
  · cases hdot

theorem IsName.ne_nil {name : Text} (h : IsName name) : name ≠ [] := by
  rw [← isValid_iff] at h
  rintro rfl
  cases h

/-- A line feed at the end passes, too. -/
theorem passes_iff {name : Text} : passes name = true ↔
    IsName name ∨ ∃ front, IsName front ∧ name = front ++ [lineFeed] := by
  rw [passes, Bool.or_eq_true, isValid_iff, isValid_iff, dropFinalLineFeed]
  split
  · rename_i hlast
    obtain ⟨front, rfl⟩ := List.getLast?_eq_some_iff.mp hlast
    rw [List.dropLast_concat]
    refine or_congr_right ⟨fun h => ⟨front, h, rfl⟩, ?_⟩
    rintro ⟨front', h, heq⟩
    rwa [List.append_cancel_right heq]
  · rename_i hlast
    rw [or_self]
    refine (or_iff_left ?_).symm
    rintro ⟨front, -, rfl⟩
    exact hlast List.getLast?_concat

end PackageName

/-! ## The package clause of the code -/

namespace Target

/-- The clause that names the package of a class. -/
def packageClause (name : Text) : Text := ("package " : Text) ++ name ++ (";" : Text)

/-- The lines of a text up to the first empty one. In the header of classes these are the lines of the
package clause. -/
def openingLines (code : Text) : List Text := code.lines.takeWhile fun l => !l.isEmpty

theorem exists_header_eq (settings : Settings) (ds : List Declaration) : ∃ rest,
    java.header settings ds =
      .ok (packageClause (packageOf settings) ++ lineFeed :: lineFeed :: rest) := by
  have himports : (classImports settings ds).map classImportLine ≠ [] := by
    simp [classImports]
  refine ⟨Text.ofLines ((classImports settings ds).map classImportLine) ++ [lineFeed], ?_⟩
  rw [header, render_header, headerLines, Text.ofLines_cons (List.cons_ne_nil _ _),
    Text.ofLines_cons himports]
  simp [packageClause]

variable {name rest : Text}

theorem openingLines_eq (h : ∀ l ∈ (packageClause name).lines, l ≠ []) :
    openingLines (packageClause name ++ lineFeed :: lineFeed :: rest) =
      (packageClause name).lines := by
  have hlines : Text.lines (packageClause name ++ lineFeed :: lineFeed :: rest) =
      (packageClause name).lines ++ [] :: rest.lines := by
    simp only [Text.lines, Text.splitOn_eq_splitOn, List.splitOn_append_cons_self]
    rw [← List.nil_append (lineFeed :: rest), List.splitOn_append_cons_self, List.splitOn_nil]
    rfl
  rw [openingLines, hlines]
  exact takeWhile_append_of_head? (by simpa using h) (by simp)

theorem lines_packageClause (h : lineFeed ∉ name) :
    (packageClause name).lines = [packageClause name] := by
  rw [Text.lines, Text.splitOn_eq_splitOn]
  refine List.splitOn_eq_singleton ?_
  simp only [packageClause, List.mem_append, not_or]
  exact ⟨⟨by decide, h⟩, by decide⟩

/-- A line feed at the end of the name breaks the clause in two. -/
theorem lines_packageClause_lineFeed (h : lineFeed ∉ name) :
    (packageClause (name ++ [lineFeed])).lines = [("package " : Text) ++ name, (";" : Text)] := by
  have hclause : packageClause (name ++ [lineFeed]) =
      (("package " : Text) ++ name) ++ lineFeed :: (";" : Text) := by
    simp [packageClause]
  rw [hclause, Text.lines, Text.splitOn_eq_splitOn, List.splitOn_append_cons_self_of_not_mem]
  · rfl
  · rw [List.mem_append, not_or]
    exact ⟨by decide, h⟩

theorem exists_header {settings : Settings} (hname : settings.packageName = name) (hne : name ≠ [])
    (hfull : ∀ l ∈ (packageClause name).lines, l ≠ []) (ds : List Declaration) :
    ∃ code, java.header settings ds = .ok code ∧ openingLines code = (packageClause name).lines := by
  obtain ⟨rest, hheader⟩ := exists_header_eq settings ds
  rw [packageOf, if_neg (by simpa [hname] using hne), hname] at hheader
  exact ⟨_, hheader, openingLines_eq hfull⟩

end Target

/-! ## What the check says -/

namespace Settings

open PackageName

variable {settings : Settings}

/-- The check of settings for Java has nothing to say about the package. -/
def PackageUnremarked (settings : Settings) : Prop :=
  ∀ name, SettingsWarning.packageName name ∉ settings.warnings ("java" : Text)

/-- The check of the package is right: it has nothing to say about package names and about nothing else,
and what it lets through makes a package clause of one line. -/
structure ChecksPackage (settings : Settings) : Prop where
  unremarked_iff : settings.PackageUnremarked ↔ IsName settings.packageName
  clause : settings.PackageUnremarked → ∀ ds, ∃ code, Target.java.header settings ds = .ok code ∧
    Target.openingLines code = [Target.packageClause settings.packageName]

theorem packageName_mem_warnings_iff {name : Text} :
    SettingsWarning.packageName name ∈ settings.warnings ("java" : Text) ↔
      passes settings.packageName = false ∧ name = settings.packageName := by
  have hcommon : SettingsWarning.packageName name ∉ settings.commonWarnings := by
    rw [commonWarnings]
    split <;> simp
  have hjava : SettingsWarning.packageName name ∈ settings.javaWarnings ↔
      passes settings.packageName = false ∧ name = settings.packageName := by
    rw [javaWarnings]
    cases settings.jsonInclude with
    | none => cases passes settings.packageName <;> simp
    | some policy =>
      cases passes settings.packageName <;> cases includePolicies.contains policy <;> simp
  rw [warnings, if_pos rfl, List.mem_append, hjava]
  exact or_iff_right hcommon

theorem packageUnremarked_iff_passes :
    settings.PackageUnremarked ↔ passes settings.packageName = true := by
  simp [PackageUnremarked, packageName_mem_warnings_iff]

theorem packageUnremarked_iff : settings.PackageUnremarked ↔ IsName settings.packageName ∨
    ∃ name, IsName name ∧ settings.packageName = name ++ [lineFeed] :=
  packageUnremarked_iff_passes.trans passes_iff

theorem exists_header_of_isName (h : IsName settings.packageName) (ds : List Declaration) :
    ∃ code, Target.java.header settings ds = .ok code ∧
      Target.openingLines code = [Target.packageClause settings.packageName] := by
  have hlines := Target.lines_packageClause h.lineFeed_notMem
  rw [← hlines]
  refine Target.exists_header rfl h.ne_nil ?_ ds
  rw [hlines, List.forall_mem_singleton]
  exact List.append_ne_nil_of_right_ne_nil _ (by decide)

theorem exists_header_of_lineFeed {name : Text} (h : IsName name)
    (hpackage : settings.packageName = name ++ [lineFeed]) (ds : List Declaration) :
    ∃ code, Target.java.header settings ds = .ok code ∧
      Target.openingLines code = [("package " : Text) ++ name, (";" : Text)] := by
  have hlines := Target.lines_packageClause_lineFeed h.lineFeed_notMem
  rw [← hlines]
  refine Target.exists_header hpackage (by simp) ?_ ds
  rw [hlines, List.forall_mem_cons, List.forall_mem_singleton]
  exact ⟨List.append_ne_nil_of_right_ne_nil _ h.ne_nil, by decide⟩

theorem not_checksPackage {name : Text} (h : IsName name)
    (hpackage : settings.packageName = name ++ [lineFeed]) : ¬ settings.ChecksPackage := by
  intro hchecks
  have hname := hchecks.unremarked_iff.mp (packageUnremarked_iff.mpr (Or.inr ⟨name, h, hpackage⟩))
  exact hname.lineFeed_notMem (hpackage ▸ List.mem_append_right _ (by simp))

/-- **The check of the package is right for all but a package name with a line feed after it.** About
that one nothing is said either, and its clause is broken in two. -/
theorem checksPackage_iff (settings : Settings) :
    (settings.ChecksPackage ↔
      ¬ ∃ name, IsName name ∧ settings.packageName = name ++ [lineFeed]) ∧
    (settings.PackageUnremarked ↔ IsName settings.packageName ∨
      ∃ name, IsName name ∧ settings.packageName = name ++ [lineFeed]) ∧
    ∀ name, IsName name → settings.packageName = name ++ [lineFeed] →
      ∀ ds, ∃ code, Target.java.header settings ds = .ok code ∧
        Target.openingLines code = [("package " : Text) ++ name, (";" : Text)] := by
  refine ⟨⟨fun hchecks ⟨name, h, hpackage⟩ => not_checksPackage h hpackage hchecks, fun h => ?_⟩,
    packageUnremarked_iff, fun name h hpackage => exists_header_of_lineFeed h hpackage⟩
  have hunremarked : settings.PackageUnremarked ↔ IsName settings.packageName :=
    packageUnremarked_iff.trans (or_iff_left h)
  exact ⟨hunremarked, fun hnothing => exists_header_of_isName (hunremarked.mp hnothing)⟩

theorem checksPackage_iff_broken :
    IsName ("a.b" : Text) ∧ ∃ code, Target.java.header { packageName := "a.b\n" } [] = .ok code ∧
      Target.openingLines code = [("package a.b" : Text), (";" : Text)] := by
  have hname : IsName ("a.b" : Text) := isValid_iff.mp (by decide)
  exact ⟨hname, (checksPackage_iff { packageName := "a.b\n" }).2.2 "a.b" hname rfl []⟩

/-- Nothing is said about `a` with a line feed after it, which is no package name. -/
theorem not_checksPackage_of_lineFeed :
    let settings : Settings := { packageName := "a\n" }
    settings.warnings ("java" : Text) = [] ∧ ¬ IsName settings.packageName ∧
      ¬ settings.ChecksPackage := by
  intro settings
  have hname : IsName ("a" : Text) := isValid_iff.mp (by decide)
  exact ⟨by decide, fun h => h.lineFeed_notMem (by decide), not_checksPackage hname rfl⟩

end Settings

end SampleTypes
