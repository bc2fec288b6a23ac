import SampleTypes.Proofs.Lists
import SampleTypes.Proofs.Naming.Identifiers
import SampleTypes.Proofs.Text.LowerCase

/-!
# Pascal case, once and again

Pascal case touches the first character of each word. What it makes of it opens with a letter that is
its own upper-case form (`CodePoint.upperCase_of_mem_head?`), so the result is capitalised. But the
form may go on with a combining mark, and a mark is no word character: it separates words when the
result is read as a hint again. So

> **a text is its own Pascal case iff it is one word and capitalised**

(`Text.pascalCase_eq_self_iff`), and the result for a hint is one word iff the openings of the hint's words
have upper-case forms without marks (`Text.forall_mem_pascalCase_iff`).
-/

set_option autoImplicit false

namespace SampleTypes

/-! ## Upper case -/

/-- Nothing that upper case leads to is moved again: the targets of runs lie off the runs and off the
longer forms, and so does what a longer form opens with. -/
theorem upperCase_settles :
    (upperCaseRuns.all fun run => upperCaseRuns.all run.avoids) = true ∧
    (upperCaseRuns.all fun run => upperCaseExpansions.all fun e =>
      Nat.blt e.1 run.target || Nat.blt (run.target + (run.last - run.first)) e.1) = true ∧
    (upperCaseExpansions.all fun e =>
      (upperCaseRuns.all fun run =>
        Nat.blt (e.2.headD 0) run.first || Nat.blt run.last (e.2.headD 0)) &&
      upperCaseExpansions.all fun other => !Nat.beq other.1 (e.2.headD 0)) = true := by
  decide +kernel

namespace CodePoint

variable {c d : CodePoint}

/-- What a longer form opens with is moved by no run and belongs to no longer form. -/
theorem upperCase_of_mem_expansions {number first : Nat} {rest : List Nat}
    (hmem : (number, first :: rest) ∈ upperCaseExpansions) :
    (scalar (Char.ofNat first)).upperCase = [scalar (Char.ofNat first)] := by
  obtain ⟨-, -, hforms⟩ := upperCase_settles
  simp only [List.all_eq_true, Bool.and_eq_true, Bool.or_eq_true, Nat.blt_eq,
    Bool.not_eq_true'] at hforms
  obtain ⟨hoffRuns, hoffForms⟩ := hforms _ hmem
  have hvalid := (upperCaseExpansions_solid _ hmem).2 first List.mem_cons_self
  have hnumber : (Char.ofNat first).toNat = first := toNat_ofNat_of_valid (Or.inl hvalid.1)
  refine upperCase_of_stays (fun run hrun htakes => ?_) fun e he heq => ?_
  · obtain ⟨hlow, hhigh, _⟩ := htakes
    have hoff := hoffRuns run hrun
    rw [hnumber] at hlow hhigh
    simp only [List.headD_cons] at hoff
    omega
  · rw [hnumber] at heq
    exact Nat.ne_of_beq_eq_false (hoffForms e he) heq

/-- Where a run leads, no run goes on and no longer form starts. -/
theorem upperCase_of_takes {run : CaseRun} {number : Nat} (hrun : run ∈ upperCaseRuns)
    (htakes : run.Takes number) :
    (scalar (Char.ofNat (run.target + (number - run.first)))).upperCase =
      [scalar (Char.ofNat (run.target + (number - run.first)))] := by
  obtain ⟨hruns, hapart, -⟩ := upperCase_settles
  simp only [List.all_eq_true, Bool.or_eq_true, Nat.blt_eq] at hruns hapart
  have hlast : number ≤ run.last := htakes.2.1
  have hvalid := upperCaseRuns_valid run hrun
  have hnumber : (Char.ofNat (run.target + (number - run.first))).toNat =
      run.target + (number - run.first) := toNat_ofNat_of_valid (by omega)
  refine upperCase_of_stays (fun other hother => ?_) fun e he heq => ?_
  · rw [hnumber]
    exact CaseRun.not_takes_of_avoids (hruns run hrun other hother) htakes
  · have hoff := hapart run hrun e he
    omega

/-- **What an upper-case form opens with is its own upper-case form.** -/
theorem upperCase_of_mem_head? (h : d ∈ c.upperCase.head?) : d.upperCase = [d] := by
  cases c with
  | surrogate half =>
    obtain rfl : surrogate half = d := by simpa [upperCase] using h
    rfl
  | scalar char =>
    rw [upperCase, SampleTypes.upperCase] at h
    cases hexp : lookupAscending upperCaseExpansions char.toNat with
    | some expansion =>
      rw [hexp] at h
      cases expansion with
      | nil => exact absurd h (by simp)
      | cons first rest =>
        obtain rfl : scalar (Char.ofNat first) = d := by simpa using h
        exact upperCase_of_mem_expansions (mem_of_lookupAscending hexp)
    | none =>
      rw [hexp] at h
      obtain rfl : scalar (Char.ofNat (CaseRun.apply upperCaseRuns char.toNat)) = d := by
        simpa using h
      rcases CaseRun.apply_cases upperCaseRuns char.toNat with hstays | ⟨run, hrun, htakes, hmoved⟩
      · rw [hstays, Char.ofNat_toNat, upperCase, SampleTypes.upperCase, hexp]
        simp [hstays]
      · rw [hmoved]
        exact upperCase_of_takes hrun htakes

/-- An upper-case form opens with a word character, whatever it goes on with. -/
theorem isWord_of_mem_head?_upperCase (hword : c.isWord = true) (h : d ∈ c.upperCase.head?) :
    d.isWord = true := by
  have hsolid := isSolid_of_mem_upperCase hword d (List.mem_of_mem_head? h)
  rcases upperCase_cases hword with hsame | ⟨first, rest, hlonger, hopens, _⟩
  · obtain rfl : c = d := by simpa [hsame] using h
    exact hword
  · obtain rfl : first = d := by simpa [hlonger] using h
    simp only [opensIdentifier, Bool.or_eq_true, beq_iff_eq] at hopens
    rcases hopens with (rfl | hletter) | hnumber
    · exact absurd hsolid (by decide)
    · exact isWord_iff.mpr ⟨_, hletter, by decide⟩
    · exact isWord_iff.mpr ⟨_, hnumber, by decide⟩

theorem exists_head?_upperCase (hword : c.isWord = true) : ∃ d, d ∈ c.upperCase.head? := by
  rcases upperCase_cases hword with hsame | ⟨first, rest, hlonger, _⟩
  · exact ⟨c, by simp [hsame]⟩
  · exact ⟨first, by simp [hlonger]⟩

end CodePoint

namespace Text

variable {t u w : Text}

/-! ## Words -/

theorem openWords_append (h : ∀ c ∈ u, c.isWord = true) (t : Text) :
    openWords (u ++ t) = (u ++ (openWords t).1, (openWords t).2) := by
  induction u with
  | nil => rfl
  | cons c u ih =>
    obtain ⟨hc, hu⟩ := List.forall_mem_cons.mp h
    rw [List.cons_append, openWords_cons, if_pos hc, ih hu]
    rfl

theorem openWords_fst_of_head? (h : ∀ c ∈ t.head?, c.isWord = false) : (openWords t).1 = [] := by
  cases t with
  | nil => rfl
  | cons c t => rw [openWords_cons, if_neg (by simp [h c rfl])]

/-- The first word goes as far as word characters do. -/
theorem words_append (h : u.IsWord) (t : Text) :
    (u ++ t).words = (u ++ (openWords t).1) :: (openWords t).2 := by
  rw [words, openWords_append h.2]
  dsimp only
  rw [if_neg (by simp [h.1])]

theorem words_of_isWord (h : t.IsWord) : t.words = [t] := by
  have hwords := words_append h []
  rwa [List.append_nil, show openWords [] = ([], []) from rfl, List.append_nil] at hwords

/-- What does not open with a word adds its words. -/
theorem words_append_of_head? (h : u.IsWord) (ht : ∀ c ∈ t.head?, c.isWord = false) :
    (u ++ t).words = u :: t.words := by
  have hopen := openWords_fst_of_head? ht
  rw [words_append h, hopen, List.append_nil, words]
  generalize openWords t = opened at hopen ⊢
  obtain ⟨word, later⟩ := opened
  obtain rfl : word = [] := hopen
  rfl

theorem words_cons_of_not_isWord {c : CodePoint} (hc : c.isWord = false) (t : Text) :
    words (c :: t) = t.words := by
  rw [words, openWords_cons, if_neg (by simp [hc]), words]
  rfl

/-- A word at the end of a text is the end of its last word. -/
theorem exists_words_append (h : u.IsWord) (t : Text) : ∃ ws v, (t ++ u).words = ws ++ [v ++ u] := by
  induction t with
  | nil => exact ⟨[], [], words_of_isWord h⟩
  | cons c t ih =>
    obtain ⟨ws, v, hwords⟩ := ih
    rw [List.cons_append]
    cases hc : c.isWord with
    | false => exact ⟨ws, v, by rw [words_cons_of_not_isWord hc, hwords]⟩
    | true =>
      have hcword : IsWord [c] := ⟨by simp, by simpa using hc⟩
      have hsplit := words_append hcword (t ++ u)
      rw [List.singleton_append] at hsplit
      rw [hsplit]
      rw [words] at hwords
      generalize openWords (t ++ u) = opened at hwords ⊢
      obtain ⟨word, later⟩ := opened
      dsimp only at hwords ⊢
      split at hwords
      · exact ⟨([c] ++ word) :: ws, v, by rw [hwords]; rfl⟩
      · cases ws with
        | nil =>
          obtain ⟨rfl, rfl⟩ := List.cons.inj hwords
          exact ⟨[], c :: v, rfl⟩
        | cons w ws =>
          obtain ⟨rfl, rfl⟩ := List.cons.inj hwords
          exact ⟨(c :: word) :: ws, v, rfl⟩

theorem words_eq_nil_iff : t.words = [] ↔ t.any CodePoint.isWord = false := by
  rw [← Bool.not_eq_true, List.any_eq_true]
  constructor
  · rintro h ⟨c, hc, hword⟩
    have hfilter := t.flatten_words
    rw [h, List.flatten_nil] at hfilter
    exact absurd (List.mem_filter.mpr ⟨hc, hword⟩) (by simp [← hfilter])
  · intro h
    refine List.eq_nil_iff_forall_not_mem.mpr fun w hw => ?_
    obtain ⟨hne, hparts⟩ := isWord_of_mem_words hw
    obtain ⟨c, w', rfl⟩ := List.exists_cons_of_ne_nil hne
    have hmem : c ∈ t.words.flatten := List.mem_flatten.mpr ⟨_, hw, List.mem_cons_self⟩
    rw [flatten_words] at hmem
    exact h ⟨c, (List.mem_filter.mp hmem).1, hparts c List.mem_cons_self⟩

/-! ## Pascal case -/

theorem head?_capitalize (h : w.IsWord) :
    ∃ d ∈ w.capitalize.head?, d.isWord = true ∧ d.upperCase = [d] := by
  obtain ⟨hne, hword⟩ := h
  obtain ⟨c, w, rfl⟩ := List.exists_cons_of_ne_nil hne
  have hc := hword c List.mem_cons_self
  obtain ⟨d, hd⟩ := CodePoint.exists_head?_upperCase hc
  refine ⟨d, ?_, CodePoint.isWord_of_mem_head?_upperCase hc hd, CodePoint.upperCase_of_mem_head? hd⟩
  rw [capitalize, List.head?_append, Option.mem_def.mp hd]
  rfl

theorem pascalCase_eq_nil_iff : t.pascalCase = [] ↔ t.any CodePoint.isWord = false := by
  rw [← words_eq_nil_iff, pascalCase]
  cases hwords : t.words with
  | nil => simp
  | cons w ws =>
    obtain ⟨d, hd, _⟩ := head?_capitalize (isWord_of_mem_words (t := t) (w := w) (by simp [hwords]))
    refine iff_of_false (fun hnil => ?_) (by simp)
    rw [List.flatMap_cons, List.append_eq_nil_iff] at hnil
    exact absurd hd (by simp [hnil.1])

/-- Pascal case opens with a word character that is its own upper-case form. -/
theorem head?_pascalCase :
    ∀ c ∈ t.pascalCase.head?, c.isWord = true ∧ c.upperCase = [c] := by
  intro c hc
  rw [pascalCase] at hc
  cases hwords : t.words with
  | nil => exact absurd hc (by simp [hwords])
  | cons w ws =>
    obtain ⟨d, hd, hopening⟩ :=
      head?_capitalize (isWord_of_mem_words (t := t) (w := w) (by simp [hwords]))
    rw [hwords, List.flatMap_cons, List.head?_append, Option.mem_def.mp hd] at hc
    obtain rfl : d = c := by simpa using hc
    exact hopening

theorem capitalize_eq_self_iff {c : CodePoint} :
    capitalize (c :: t) = c :: t ↔ c.upperCase = [c] := by
  rw [capitalize, ← List.singleton_append, List.append_left_inj]

theorem capitalize_append (h : u ≠ []) (t : Text) :
    (u ++ t).capitalize = u.capitalize ++ t := by
  obtain ⟨c, u, rfl⟩ := List.exists_cons_of_ne_nil h
  rw [List.cons_append, capitalize, capitalize, List.append_assoc]

/-- **A text is its own Pascal case iff it is one word and capitalised.** -/
theorem pascalCase_eq_self_iff (hne : t ≠ []) :
    t.pascalCase = t ↔ t.IsWord ∧ t.capitalize = t := by
  constructor
  · intro h
    obtain ⟨rest, ht, hhead⟩ : ∃ rest, t = t.takeWhile CodePoint.isWord ++ rest ∧
        ∀ c ∈ rest.head?, c.isWord = false :=
      ⟨t.dropWhile CodePoint.isWord, List.takeWhile_append_dropWhile.symm,
        eq_false_of_mem_head?_dropWhile⟩
    have hword : ∀ c ∈ t.takeWhile CodePoint.isWord, c.isWord = true :=
      fun c hc => List.mem_takeWhile_imp hc
    -- Past its first word, the text would have to open with a separator, and Pascal case does not.
    have hrest : rest.pascalCase = rest → rest = [] := by
      intro hsame
      cases rest with
      | nil => rfl
      | cons c rest =>
        have hopens := (head?_pascalCase (t := c :: rest) c (by rw [hsame]; rfl)).1
        exact absurd hopens (by simp [hhead c rfl])
    generalize t.takeWhile CodePoint.isWord = u at ht hword
    subst ht
    cases u with
    | nil => exact absurd (hrest h) hne
    | cons c u =>
      have hfirst : IsWord (c :: u) := ⟨by simp, hword⟩
      have hcapital : capitalize (c :: u) = c :: u := by
        refine capitalize_eq_self_iff.mpr (head?_pascalCase (t := c :: u ++ rest) c ?_).2
        rw [h]
        rfl
      rw [pascalCase, words_append_of_head? hfirst hhead, List.flatMap_cons, hcapital,
        List.append_right_inj] at h
      rw [hrest h, List.append_nil]
      exact ⟨hfirst, hcapital⟩
  · rintro ⟨hword, hcapital⟩
    rw [pascalCase, words_of_isWord hword, List.flatMap_singleton, hcapital]

/-- What opens a text as a capitalised word opens it still in Pascal case. -/
theorem isPrefix_pascalCase (h : u.IsWord) (hcapital : u.capitalize = u) (t : Text) :
    u <+: (u ++ t).pascalCase := by
  rw [pascalCase, words_append h, List.flatMap_cons, capitalize_append h.1, hcapital,
    List.append_assoc]
  exact List.prefix_append _ _

/-- What ends a text as a capitalised word ends it still in Pascal case. -/
theorem isSuffix_pascalCase (h : u.IsWord) (hcapital : u.capitalize = u) (t : Text) :
    u <:+ (t ++ u).pascalCase := by
  obtain ⟨ws, v, hwords⟩ := exists_words_append h t
  rw [pascalCase, hwords, List.flatMap_append, List.flatMap_singleton]
  refine List.IsSuffix.trans ?_ (List.suffix_append _ _)
  cases v with
  | nil => simp [hcapital]
  | cons c v =>
    rw [capitalize_append (List.cons_ne_nil c v)]
    exact List.suffix_append _ _

/-- The guard against digits adds no word. -/
theorem pascalCase_guardDigit (t : Text) : t.guardDigit.pascalCase = t.pascalCase := by
  cases t with
  | nil => rfl
  | cons c t =>
    rw [guardDigit]
    split
    · rw [pascalCase, words_cons_of_not_isWord (by decide), pascalCase]
    · rfl

/-- Pascal case is made of word characters iff so are the upper-case forms of what the words open
with. -/
theorem forall_mem_pascalCase_iff : (∀ c ∈ t.pascalCase, c.isWord = true) ↔
    ∀ w ∈ t.words, ∀ c ∈ w.head?, ∀ d ∈ c.upperCase, d.isWord = true := by
  have hwords : ∀ w ∈ t.words, IsWord w := fun w => isWord_of_mem_words
  rw [pascalCase, List.forall_mem_flatMap]
  refine forall₂_congr fun w hw => ?_
  obtain ⟨hne, hparts⟩ := hwords w hw
  obtain ⟨c, w, rfl⟩ := List.exists_cons_of_ne_nil hne
  obtain ⟨_, hrest⟩ := List.forall_mem_cons.mp hparts
  rw [capitalize, List.forall_mem_append]
  simp only [List.head?_cons, Option.mem_some, forall_eq']
  exact and_iff_left hrest

end Text

end SampleTypes
