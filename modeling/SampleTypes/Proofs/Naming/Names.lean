import Mathlib.Data.List.Basic
import SampleTypes.Inference.Findings
import SampleTypes.Proofs.Text.Ranges
import SampleTypes.Text.Blank

/-!
# What names are made of

Hints are arbitrary texts, and what is built from them is not: **a synthesized name is never empty
and holds no white space and no mark of ASCII but the underscore** (`Text.IsName`). The reason is
the splitting into words, which lets only letters and digits through; the upper-case form of a
letter may be longer than the letter, but it is made of letters and combining characters again.
Three tables meet here, and all that is asked of them is that certain ranges lie apart.

The other fact about names is that decoration loses nothing: under one style, two hints that are
keys get the same name iff they have the same words in Pascal case
(`NamingStyle.declarationName_inj`). The underscore before a digit cannot make two names equal, as
no word begins with one.
-/

set_option autoImplicit false

namespace SampleTypes

/-! ## Solid characters -/

/-- The characters of ASCII that are neither letters nor digits, as closed ranges of code points. -/
def markRanges : List (Nat × Nat) := [(0x0, 0x2F), (0x3A, 0x40), (0x5B, 0x60), (0x7B, 0x7F)]

/-- Whether a number is that of neither white space nor a mark of ASCII. -/
def isSolidNumber (n : Nat) : Bool := !inRanges blankRanges n && !inRanges markRanges n

namespace CodePoint

/-- Whether a code point is a character that sets nothing apart: no white space, and no mark of
ASCII. -/
def isSolid : CodePoint → Bool
  | .scalar c => isSolidNumber c.toNat
  | .surrogate _ => false

/-- Whether a code point may stand in a name. -/
def isNamePart (c : CodePoint) : Bool := c.isSolid || c == .scalar '_'

theorem isNamePart_of_isSolid {c : CodePoint} (h : c.isSolid = true) : c.isNamePart = true := by
  rw [isNamePart, h, Bool.true_or]

theorem isBlank_of_isNamePart {c : CodePoint} (h : c.isNamePart = true) : c.isBlank = false := by
  simp only [isNamePart, Bool.or_eq_true, beq_iff_eq] at h
  rcases h with h | rfl
  · cases c with
    | surrogate half => rfl
    | scalar c =>
      simp only [isSolid, isSolidNumber, Bool.and_eq_true, Bool.not_eq_true'] at h
      exact h.1
  · rfl

end CodePoint

/-- A range that lies apart from all white space and all marks holds solid characters only. -/
theorem isSolidNumber_of_apart {first last n : Nat} (hfirst : first ≤ n) (hlast : n ≤ last)
    (h : ∀ r ∈ blankRanges ++ markRanges, last < r.1 ∨ r.2 < first) : isSolidNumber n = true := by
  have hout : ∀ rs ⊆ blankRanges ++ markRanges, inRanges rs n = false := by
    intro rs hrs
    by_contra hin
    obtain ⟨r, hr, hlow, hhigh⟩ := exists_of_inRanges (Bool.of_not_eq_false hin)
    rcases h r (hrs hr) with h | h <;> omega
  rw [isSolidNumber, hout _ (List.subset_append_left _ _), hout _ (List.subset_append_right _ _)]
  rfl

/-- Word characters and their upper-case forms lie apart from white space and marks, and the forms are
characters. -/
theorem tables_apart :
    (∀ w ∈ wordRanges, ∀ r ∈ blankRanges ++ markRanges, w.2 < r.1 ∨ r.2 < w.1) ∧
    (∀ run ∈ upperCaseRuns, ∀ r ∈ blankRanges ++ markRanges,
      run.target + (run.last - run.first) < r.1 ∨ r.2 < run.target) ∧
    (∀ run ∈ upperCaseRuns, run.target + (run.last - run.first) < 0xD800 ∨
      0xDFFF < run.target ∧ run.target + (run.last - run.first) < 0x110000) ∧
    ∀ e ∈ upperCaseExpansions, e.2 ≠ [] ∧ ∀ n ∈ e.2, n < 0xD800 ∧ isSolidNumber n = true := by
  decide +kernel

theorem wordRanges_apart :
    ∀ w ∈ wordRanges, ∀ r ∈ blankRanges ++ markRanges, w.2 < r.1 ∨ r.2 < w.1 := tables_apart.1

theorem isSolid_of_isWord {c : CodePoint} (h : c.isWord = true) : c.isSolid = true := by
  cases c with
  | surrogate half => exact absurd h (by simp [CodePoint.isWord])
  | scalar c =>
    have hword : inRanges wordRanges c.toNat = true := h
    obtain ⟨w, hw, hfirst, hlast⟩ := exists_of_inRanges hword
    exact isSolidNumber_of_apart hfirst hlast (wordRanges_apart w hw)

/-! ## Upper case -/

theorem upperCaseRuns_apart : ∀ run ∈ upperCaseRuns, ∀ r ∈ blankRanges ++ markRanges,
    run.target + (run.last - run.first) < r.1 ∨ r.2 < run.target := tables_apart.2.1

theorem upperCaseRuns_valid : ∀ run ∈ upperCaseRuns,
    run.target + (run.last - run.first) < 0xD800 ∨
      0xDFFF < run.target ∧ run.target + (run.last - run.first) < 0x110000 := tables_apart.2.2.1

theorem upperCaseExpansions_solid :
    ∀ e ∈ upperCaseExpansions, e.2 ≠ [] ∧ ∀ n ∈ e.2, n < 0xD800 ∧ isSolidNumber n = true :=
  tables_apart.2.2.2

theorem isSolid_of_mem_upperCase {c : CodePoint} (h : c.isWord = true) :
    ∀ d ∈ c.upperCase, d.isSolid = true := by
  cases c with
  | surrogate half => exact absurd h (by simp [CodePoint.isWord])
  | scalar c =>
    intro d hd
    obtain ⟨e, he, rfl⟩ := List.mem_map.mp hd
    rw [upperCase] at he
    cases hexp : lookupAscending upperCaseExpansions c.toNat with
    | some expansion =>
      rw [hexp] at he
      obtain ⟨n, hn, rfl⟩ := List.mem_map.mp he
      obtain ⟨hlow, hsolid⟩ := (upperCaseExpansions_solid _ (mem_of_lookupAscending hexp)).2 n hn
      rw [CodePoint.isSolid, toNat_ofNat_of_valid (Or.inl hlow)]
      exact hsolid
    | none =>
      rw [hexp] at he
      rw [List.mem_singleton.mp he]
      rcases CaseRun.apply_cases upperCaseRuns c.toNat with hstays | ⟨run, hrun, htakes, hmoved⟩
      · rw [hstays, Char.ofNat_toNat]
        exact isSolid_of_isWord h
      · have hvalid := upperCaseRuns_valid run hrun
        obtain ⟨hfirst, hlast, _⟩ := htakes
        rw [CodePoint.isSolid, hmoved, toNat_ofNat_of_valid (by omega)]
        exact isSolidNumber_of_apart (by omega) (by omega) (upperCaseRuns_apart run hrun)

/-- A character that no run takes and no longer form belongs to is its own upper-case form. -/
theorem CodePoint.upperCase_of_stays {char : Char}
    (hruns : ∀ run ∈ upperCaseRuns, ¬ run.Takes char.toNat)
    (hexpansions : ∀ e ∈ upperCaseExpansions, e.1 ≠ char.toNat) :
    (scalar char).upperCase = [scalar char] := by
  have hnone : lookupAscending upperCaseExpansions char.toNat = none := by
    cases hexp : lookupAscending upperCaseExpansions char.toNat with
    | none => rfl
    | some expansion => exact absurd rfl (hexpansions _ (mem_of_lookupAscending hexp))
  rw [upperCase, SampleTypes.upperCase, hnone]
  simp only [CaseRun.apply_of_stays hruns, Char.ofNat_toNat, List.map_cons, List.map_nil]

/-! ## Words and what is built from them -/

namespace Text

/-- A word is a run of word characters that is not empty. -/
def IsWord (w : Text) : Prop := w ≠ [] ∧ ∀ c ∈ w, c.isWord = true

theorem openWords_cons (c : CodePoint) (t : Text) : openWords (c :: t) =
    if c.isWord then (c :: (openWords t).1, (openWords t).2)
    else ([], if (openWords t).1.isEmpty then (openWords t).2
      else (openWords t).1 :: (openWords t).2) := rfl

theorem isWord_of_mem_openWords (t : Text) :
    (∀ c ∈ (openWords t).1, c.isWord = true) ∧ ∀ w ∈ (openWords t).2, IsWord w := by
  induction t with
  | nil => exact ⟨by simp [openWords], by simp [openWords]⟩
  | cons c t ih =>
    rw [openWords_cons]
    split
    · rename_i hc
      exact ⟨List.forall_mem_cons.mpr ⟨hc, ih.1⟩, ih.2⟩
    · refine ⟨by simp, ?_⟩
      split
      · exact ih.2
      · rename_i hopen
        exact List.forall_mem_cons.mpr ⟨⟨by simpa using hopen, ih.1⟩, ih.2⟩

theorem isWord_of_mem_words {t w : Text} (h : w ∈ t.words) : IsWord w := by
  obtain ⟨hopen, hlater⟩ := isWord_of_mem_openWords t
  rw [words] at h
  generalize openWords t = opened at h hopen hlater
  obtain ⟨word, later⟩ := opened
  dsimp only at h
  split at h
  · exact hlater w h
  · rename_i hne
    rcases List.mem_cons.mp h with rfl | h
    · exact ⟨by simpa using hne, hopen⟩
    · exact hlater w h

theorem isSolid_of_mem_capitalize {w : Text} (h : IsWord w) :
    ∀ c ∈ w.capitalize, c.isSolid = true := by
  obtain ⟨hne, hword⟩ := h
  cases w with
  | nil => exact absurd rfl hne
  | cons c w =>
    intro d hd
    rcases List.mem_append.mp hd with hd | hd
    · exact isSolid_of_mem_upperCase (hword c List.mem_cons_self) d hd
    · exact isSolid_of_isWord (hword d (List.mem_cons_of_mem _ hd))

theorem isSolid_of_mem_pascalCase {t : Text} : ∀ c ∈ t.pascalCase, c.isSolid = true := by
  intro c hc
  obtain ⟨w, hw, hc⟩ := List.mem_flatMap.mp hc
  exact isSolid_of_mem_capitalize (isWord_of_mem_words hw) c hc

theorem isSolid_of_mem_camelCase {t : Text} : ∀ c ∈ t.camelCase, c.isSolid = true := by
  intro c hc
  have hwords : ∀ w ∈ t.words, IsWord w := fun w hw => isWord_of_mem_words hw
  rw [camelCase] at hc
  cases ht : t.words with
  | nil => rw [ht] at hc; exact absurd hc (by simp)
  | cons first later =>
    rw [ht] at hc hwords
    rcases List.mem_append.mp hc with hc | hc
    · exact isSolid_of_isWord ((hwords first List.mem_cons_self).2 c hc)
    · obtain ⟨w, hw, hc⟩ := List.mem_flatMap.mp hc
      exact isSolid_of_mem_capitalize (hwords w (List.mem_cons_of_mem _ hw)) c hc

/-! ## Names -/

/-- A text that may be a name: it is not empty, and holds no white space and no mark of ASCII but
the underscore. -/
def IsName (t : Text) : Prop := t ≠ [] ∧ ∀ c ∈ t, c.isNamePart = true

theorem isName_of_isSolid {t : Text} (hne : t ≠ []) (h : ∀ c ∈ t, c.isSolid = true) : IsName t :=
  ⟨hne, fun c hc => CodePoint.isNamePart_of_isSolid (h c hc)⟩

theorem IsName.append {s t : Text} (hs : IsName s) (ht : ∀ c ∈ t, c.isNamePart = true) :
    IsName (s ++ t) := by
  refine ⟨List.append_ne_nil_of_left_ne_nil hs.1 t, fun c hc => ?_⟩
  rcases List.mem_append.mp hc with hc | hc
  · exact hs.2 c hc
  · exact ht c hc

theorem guardDigit_ne_nil {t : Text} (h : t ≠ []) : t.guardDigit ≠ [] := by
  cases t with
  | nil => exact absurd rfl h
  | cons c t =>
    rw [guardDigit]
    split <;> simp

theorem IsName.guardDigit {t : Text} (h : IsName t) : IsName t.guardDigit := by
  refine ⟨guardDigit_ne_nil h.1, ?_⟩
  cases t with
  | nil => exact absurd rfl h.1
  | cons c t =>
    rw [Text.guardDigit]
    split
    · exact List.forall_mem_cons.mpr ⟨rfl, h.2⟩
    · exact h.2

end Text

open Text (IsName)

/-- A number is written in the digits of ASCII. -/
theorem exists_digit_of_mem_toString {n : Nat} {c : CodePoint}
    (hc : c ∈ ((toString n : String) : Text)) :
    ∃ d : Char, c = .scalar d ∧ 48 ≤ d.toNat ∧ d.toNat ≤ 57 := by
  obtain ⟨d, hd, rfl⟩ := List.mem_map.mp hc
  have hdigit : d.isDigit = true := by
    refine Nat.isDigit_of_mem_toDigits (b := 10) (n := n) (by omega) (by omega) ?_
    simpa [Nat.toList_repr] using hd
  simp only [Char.isDigit, Bool.and_eq_true, decide_eq_true_eq] at hdigit
  exact ⟨d, rfl, hdigit.1, hdigit.2⟩

/-- The digits of a number may stand in a name. -/
theorem isNamePart_of_mem_toString {n : Nat} :
    ∀ c ∈ ((toString n : String) : Text), c.isNamePart = true := by
  intro c hc
  obtain ⟨d, rfl, hfirst, hlast⟩ := exists_digit_of_mem_toString hc
  exact CodePoint.isNamePart_of_isSolid (isSolidNumber_of_apart hfirst hlast (by decide))

namespace FieldScope

theorem isName_identifier (key : Text) : IsName (identifier key) := by
  rw [identifier]
  split
  · exact ⟨by decide, by decide⟩
  · rename_i hne
    exact (Text.isName_of_isSolid (by simpa using hne) Text.isSolid_of_mem_camelCase).guardDigit

theorem isName_numbered {name : Text} (h : IsName name) (n : Nat) :
    IsName (numbered name ("_" : Text) n) :=
  (h.append (by decide)).append isNamePart_of_mem_toString

theorem isName_free {name : Text} (h : IsName name) (taken : List Text) :
    IsName (free taken name ("_" : Text)) := by
  rw [free]
  split
  · split <;> exact isName_numbered h _
  · exact h

/-- **A field is given a name**, whatever its key. -/
theorem isName_assign (scope : FieldScope) (key : Text) : IsName (scope.assign key).1 := by
  refine isName_free ?_ scope.taken
  split
  · exact (isName_identifier key).append (by decide)
  · exact isName_identifier key

end FieldScope

namespace NamingConvention

theorem isName_baseName (hint : Text) : IsName (baseName hint) := by
  rw [baseName]
  split
  · exact ⟨by decide, by decide⟩
  · rename_i hne
    exact Text.isName_of_isSolid (by simpa using hne) Text.isSolid_of_mem_pascalCase

/-- What a name begins with is no underscore. -/
theorem head?_baseName (hint : Text) : (baseName hint).head? ≠ some (.scalar '_') := by
  rw [baseName]
  split
  · decide
  · intro h
    have hsolid := Text.isSolid_of_mem_pascalCase _ (List.mem_of_mem_head? h)
    exact absurd hsolid (by decide)

/-- The name before it is guarded against a digit. -/
def decorated (convention : NamingConvention) (suffix hint : Text) (fromKey : Bool) : Text :=
  convention.addTrail fromKey (convention.addLead fromKey (baseName hint) ++ suffix.pascalCase)

theorem decorated_ne_nil (convention : NamingConvention) (suffix hint : Text) (fromKey : Bool) :
    convention.decorated suffix hint fromKey ≠ [] := by
  have hbase := (isName_baseName hint).1
  have hlead : convention.addLead fromKey (baseName hint) ≠ [] := by
    rw [addLead]
    split
    · exact List.append_ne_nil_of_right_ne_nil _ hbase
    · exact hbase
  have hname := List.append_ne_nil_of_left_ne_nil hlead suffix.pascalCase
  rw [decorated, addTrail]
  split
  · exact List.append_ne_nil_of_left_ne_nil hname _
  · exact hname

/-- **There is always a first code point** for the guard to look at. -/
theorem declarationName_ne_nil (convention : NamingConvention) (suffix hint : Text)
    (fromKey : Bool) : convention.declarationName suffix hint fromKey ≠ [] :=
  Text.guardDigit_ne_nil (convention.decorated_ne_nil suffix hint fromKey)

/-- **A declaration is given a name**, if the convention adds nothing else. -/
theorem isName_declarationName {convention : NamingConvention}
    (hlead : ∀ c ∈ convention.lead, c.isNamePart = true)
    (htrail : ∀ c ∈ convention.trail, c.isNamePart = true) (suffix hint : Text) (fromKey : Bool) :
    IsName (convention.declarationName suffix hint fromKey) := by
  have hbase := isName_baseName hint
  have hled : IsName (convention.addLead fromKey (baseName hint)) := by
    rw [addLead]
    split
    · refine ⟨List.append_ne_nil_of_right_ne_nil _ hbase.1, fun c hc => ?_⟩
      rcases List.mem_append.mp hc with hc | hc
      · exact hlead c hc
      · exact hbase.2 c hc
    · exact hbase
  have hsuffixed : IsName (convention.addLead fromKey (baseName hint) ++ suffix.pascalCase) :=
    hled.append fun c hc =>
      CodePoint.isNamePart_of_isSolid (Text.isSolid_of_mem_pascalCase c hc)
  refine Text.IsName.guardDigit ?_
  rw [addTrail]
  split
  · exact hsuffixed.append htrail
  · exact hsuffixed

/-! ## Decoration loses nothing -/

theorem guardDigit_inj_of_head?_eq {s t : Text} (hhead : s.head? = t.head?)
    (h : s.guardDigit = t.guardDigit) : s = t := by
  cases s with
  | nil =>
    cases t with
    | nil => rfl
    | cons d t => exact absurd hhead (by simp)
  | cons c s =>
    cases t with
    | nil => exact absurd hhead (by simp)
    | cons d t =>
      obtain rfl : c = d := by simpa using hhead
      simp only [Text.guardDigit] at h
      split at h
      · exact (List.cons.inj h).2
      · exact h

theorem guardDigit_inj {s t : Text} (hs : s.head? ≠ some (.scalar '_'))
    (ht : t.head? ≠ some (.scalar '_')) (h : s.guardDigit = t.guardDigit) : s = t := by
  cases s with
  | nil =>
    cases t with
    | nil => rfl
    | cons d t => exact absurd h.symm (Text.guardDigit_ne_nil (by simp))
  | cons c s =>
    cases t with
    | nil => exact absurd h (Text.guardDigit_ne_nil (by simp))
    | cons d t =>
      simp only [Text.guardDigit] at h
      -- Where one of the two is guarded and the other is not, the other begins with an underscore.
      split at h <;> split at h
      · exact (List.cons.inj h).2
      · exact absurd (congrArg List.head? h.symm) ht
      · exact absurd (congrArg List.head? h) hs
      · exact h

/-- **Two keys are named alike iff they are alike in Pascal case**, whatever the convention and the
suffix. -/
theorem declarationName_inj {convention : NamingConvention} {suffix hint hint' : Text} :
    convention.declarationName suffix hint true = convention.declarationName suffix hint' true ↔
      baseName hint = baseName hint' := by
  have hname : ∀ hint, convention.declarationName suffix hint true =
      (convention.lead ++ (baseName hint ++ (suffix.pascalCase ++ convention.trail))).guardDigit := by
    intro hint
    simp [declarationName, addTrail, addLead]
  constructor
  · intro h
    rw [hname, hname] at h
    refine (List.append_left_inj (suffix.pascalCase ++ convention.trail)).mp
      ((List.append_right_inj convention.lead).mp ?_)
    cases hlead : convention.lead with
    | cons c lead =>
      rw [hlead] at h
      exact guardDigit_inj_of_head?_eq rfl h
    | nil =>
      rw [hlead] at h
      have hhead : ∀ hint rest, (baseName hint ++ rest).head? ≠ some (.scalar '_') := by
        intro hint rest
        rw [List.head?_append_of_ne_nil _ (isName_baseName hint).1]
        exact head?_baseName hint
      exact guardDigit_inj (hhead hint _) (hhead hint' _) h
  · intro h
    rw [hname, hname, h]

end NamingConvention

end SampleTypes
