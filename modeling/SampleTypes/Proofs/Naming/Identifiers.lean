import SampleTypes.Proofs.Naming.Categories

/-!
# Which names are legal identifiers

A name holds the other numbers of what it is made from, no more and no less: words keep them, and upper
case leaves them alone. Everything else in a name may stand where it stands. So

> **a name is a legal identifier iff what it is made from holds no other number**

(`FieldScope.isIdentifier_assign_iff`, `NamingConvention.isIdentifier_declarationName_iff`). On the way a name is
a stem: all of it may stand in an identifier, and it opens as one or with a digit, which is guarded in
the end.
-/

set_option autoImplicit false

namespace SampleTypes

namespace Text

variable {s t w : Text}

/-! ## Other numbers -/

@[simp]
theorem hasOtherNumber_append : (s ++ t).hasOtherNumber = (s.hasOtherNumber || t.hasOtherNumber) :=
  List.any_append

theorem hasOtherNumber_eq_false_iff :
    t.hasOtherNumber = false ↔ ∀ c ∈ t, c.isOtherNumber = false := by
  simp [hasOtherNumber]

theorem hasOtherNumber_of_parts (h : ∀ c ∈ t, c.isIdentifierPart = true) :
    t.hasOtherNumber = false := by
  refine hasOtherNumber_eq_false_iff.mpr fun c hc => ?_
  by_contra hnumber
  have hpart := CodePoint.not_isIdentifierPart_of_isOtherNumber (Bool.of_not_eq_false hnumber)
  exact absurd (h c hc) (by simp [hpart])

theorem flatten_words (t : Text) : t.words.flatten = t.filter CodePoint.isWord := by
  have hopen : (openWords t).1 ++ (openWords t).2.flatten = t.filter CodePoint.isWord := by
    induction t with
    | nil => rfl
    | cons c t ih =>
      rw [openWords_cons, List.filter_cons, ← ih]
      split
      · rfl
      · split
        · rename_i hempty
          simp [List.isEmpty_iff.mp hempty]
        · rfl
  rw [← hopen, words]
  generalize openWords t = opened
  obtain ⟨word, later⟩ := opened
  dsimp only
  split
  · rename_i hempty
    simp [List.isEmpty_iff.mp hempty]
  · rfl

/-- The words of a text hold its other numbers. -/
theorem any_words (t : Text) : t.words.any hasOtherNumber = t.hasOtherNumber := by
  have hflatten : t.words.any hasOtherNumber = t.words.flatten.any CodePoint.isOtherNumber :=
    List.any_flatten.symm
  rw [hflatten, flatten_words, hasOtherNumber, List.any_filter]
  refine congrArg (List.any t) (funext fun c => ?_)
  cases hnumber : c.isOtherNumber with
  | false => rw [Bool.and_false]
  | true => rw [CodePoint.isWord_of_isOtherNumber hnumber, Bool.true_and]

theorem hasOtherNumber_upperCase {c : CodePoint} (h : c.isWord = true) :
    hasOtherNumber c.upperCase = c.isOtherNumber := by
  have hself : hasOtherNumber [c] = c.isOtherNumber := by simp [hasOtherNumber]
  cases hnumber : c.isOtherNumber with
  | true => rw [CodePoint.upperCase_of_isOtherNumber hnumber, hself, hnumber]
  | false =>
    rcases CodePoint.upperCase_cases h with hsame | ⟨first, rest, hlonger, hfirst, hrest⟩
    · rw [hsame, hself, hnumber]
    · rw [hlonger]
      refine hasOtherNumber_of_parts (List.forall_mem_cons.mpr ⟨?_, hrest⟩)
      exact CodePoint.isIdentifierPart_of_opensIdentifier hfirst

theorem hasOtherNumber_capitalize (h : w.IsWord) :
    w.capitalize.hasOtherNumber = w.hasOtherNumber := by
  obtain ⟨hne, hword⟩ := h
  cases w with
  | nil => rfl
  | cons c w =>
    rw [capitalize, hasOtherNumber_append, hasOtherNumber_upperCase (hword c List.mem_cons_self)]
    rfl

theorem hasOtherNumber_flatMap_capitalize {ws : List Text} (h : ∀ w ∈ ws, w.IsWord) :
    hasOtherNumber (ws.flatMap capitalize) = ws.any hasOtherNumber := by
  induction ws with
  | nil => rfl
  | cons w ws ih =>
    obtain ⟨hw, hws⟩ := List.forall_mem_cons.mp h
    rw [List.flatMap_cons, hasOtherNumber_append, hasOtherNumber_capitalize hw, ih hws,
      List.any_cons]

@[simp]
theorem hasOtherNumber_pascalCase (t : Text) : t.pascalCase.hasOtherNumber = t.hasOtherNumber :=
  (hasOtherNumber_flatMap_capitalize fun _ => isWord_of_mem_words).trans t.any_words

@[simp]
theorem hasOtherNumber_camelCase (t : Text) : t.camelCase.hasOtherNumber = t.hasOtherNumber := by
  have hwords : ∀ w ∈ t.words, w.IsWord := fun w => isWord_of_mem_words
  rw [← t.any_words, camelCase]
  cases hfirst : t.words with
  | nil => rfl
  | cons first later =>
    rw [hfirst] at hwords
    dsimp only
    rw [hasOtherNumber_append,
      hasOtherNumber_flatMap_capitalize (List.forall_mem_cons.mp hwords).2, List.any_cons]

@[simp]
theorem hasOtherNumber_guardDigit (t : Text) : t.guardDigit.hasOtherNumber = t.hasOtherNumber := by
  cases t with
  | nil => rfl
  | cons c t =>
    rw [guardDigit]
    split
    · rfl
    · rfl

/-! ## Stems -/

/-- All of the text may stand in an identifier, and it opens as one or with a digit. -/
def IsStem (t : Text) : Prop :=
  ∃ first rest, t = first :: rest ∧ (first.opensIdentifier = true ∨ first.isDigit = true) ∧
    ∀ c ∈ t, c.isIdentifierPart = true

theorem IsStem.append (hs : s.IsStem) (ht : ∀ c ∈ t, c.isIdentifierPart = true) :
    (s ++ t).IsStem := by
  obtain ⟨first, rest, rfl, hfirst, hparts⟩ := hs
  exact ⟨first, rest ++ t, rfl, hfirst, List.forall_mem_append.mpr ⟨hparts, ht⟩⟩

theorem IsStem.parts (h : t.IsStem) : ∀ c ∈ t, c.isIdentifierPart = true := by
  obtain ⟨_, _, _, _, hparts⟩ := h
  exact hparts

/-- A guarded stem is an identifier. -/
theorem IsStem.guardDigit (h : t.IsStem) : t.guardDigit.IsIdentifier := by
  obtain ⟨first, rest, rfl, hfirst, hparts⟩ := h
  rw [Text.guardDigit]
  split
  · exact ⟨_, _, rfl, by decide, hparts⟩
  · rename_i hdigit
    exact ⟨first, rest, rfl, hfirst.resolve_right hdigit, (List.forall_mem_cons.mp hparts).2⟩

theorem IsIdentifier.parts (h : t.IsIdentifier) : ∀ c ∈ t, c.isIdentifierPart = true := by
  obtain ⟨first, rest, rfl, hfirst, hrest⟩ := h
  exact List.forall_mem_cons.mpr ⟨CodePoint.isIdentifierPart_of_opensIdentifier hfirst, hrest⟩

theorem IsIdentifier.append (hs : s.IsIdentifier) (ht : ∀ c ∈ t, c.isIdentifierPart = true) :
    (s ++ t).IsIdentifier := by
  obtain ⟨first, rest, rfl, hfirst, hrest⟩ := hs
  exact ⟨first, rest ++ t, rfl, hfirst, List.forall_mem_append.mpr ⟨hrest, ht⟩⟩

theorem IsIdentifier.isStem (h : t.IsIdentifier) : t.IsStem := by
  have hparts := h.parts
  obtain ⟨first, rest, rfl, hfirst, _⟩ := h
  exact ⟨first, rest, rfl, Or.inl hfirst, hparts⟩

theorem isStem_of_isWord (h : w.IsWord) (hnumber : w.hasOtherNumber = false) : w.IsStem := by
  rw [hasOtherNumber_eq_false_iff] at hnumber
  obtain ⟨hne, hword⟩ := h
  cases w with
  | nil => exact absurd rfl hne
  | cons c w =>
    have hkinds := fun d hd => CodePoint.opensIdentifier_or_isDigit (hword d hd) (hnumber d hd)
    exact ⟨c, w, rfl, (hkinds c List.mem_cons_self).2, fun d hd => (hkinds d hd).1⟩

theorem isStem_capitalize (h : w.IsWord) (hnumber : w.hasOtherNumber = false) :
    w.capitalize.IsStem := by
  have hstem := isStem_of_isWord h hnumber
  have hparts := hstem.parts
  obtain ⟨c, rest, rfl, _⟩ := id hstem
  have hrest := (List.forall_mem_cons.mp hparts).2
  rw [capitalize]
  rcases CodePoint.upperCase_cases (h.2 c List.mem_cons_self) with
    hsame | ⟨first, later, hlonger, hfirst, hlater⟩
  · rw [hsame]
    exact hstem
  · rw [hlonger]
    have hidentifier : IsIdentifier (first :: later) := ⟨first, later, rfl, hfirst, hlater⟩
    exact hidentifier.isStem.append hrest

theorem isIdentifierPart_of_mem_flatMap_capitalize {ws : List Text} (hwords : ∀ w ∈ ws, w.IsWord)
    (hnumber : ws.any hasOtherNumber = false) :
    ∀ c ∈ ws.flatMap capitalize, c.isIdentifierPart = true := by
  intro c hc
  obtain ⟨w, hw, hc⟩ := List.mem_flatMap.mp hc
  have hfree : w.hasOtherNumber = false := by simpa using List.any_eq_false.mp hnumber w hw
  exact (isStem_capitalize (hwords w hw) hfree).parts c hc

/-- Of a text without other numbers the first word has none, and the later ones, capitalised, may stand
after it. -/
theorem words_of_not_hasOtherNumber {first : Text} {later : List Text}
    (hwords : t.words = first :: later) (hnumber : t.hasOtherNumber = false) :
    first.IsWord ∧ first.hasOtherNumber = false ∧
      ∀ c ∈ later.flatMap capitalize, c.isIdentifierPart = true := by
  have hall : ∀ w ∈ t.words, w.IsWord := fun w => isWord_of_mem_words
  rw [← t.any_words, hwords, List.any_cons, Bool.or_eq_false_iff] at hnumber
  rw [hwords] at hall
  obtain ⟨hfirst, hlater⟩ := List.forall_mem_cons.mp hall
  exact ⟨hfirst, hnumber.1, isIdentifierPart_of_mem_flatMap_capitalize hlater hnumber.2⟩

theorem isStem_pascalCase (hne : t.pascalCase ≠ []) (hnumber : t.hasOtherNumber = false) :
    t.pascalCase.IsStem := by
  rw [pascalCase] at hne ⊢
  cases hwords : t.words with
  | nil => exact absurd (by rw [hwords]; rfl) hne
  | cons first later =>
    obtain ⟨hfirst, hfree, hlater⟩ := words_of_not_hasOtherNumber hwords hnumber
    rw [List.flatMap_cons]
    exact (isStem_capitalize hfirst hfree).append hlater

theorem isStem_camelCase (hne : t.camelCase ≠ []) (hnumber : t.hasOtherNumber = false) :
    t.camelCase.IsStem := by
  rw [camelCase] at hne ⊢
  cases hwords : t.words with
  | nil => exact absurd (by rw [hwords]) hne
  | cons first later =>
    obtain ⟨hfirst, hfree, hlater⟩ := words_of_not_hasOtherNumber hwords hnumber
    exact (isStem_of_isWord hfirst hfree).append hlater

theorem isIdentifierPart_of_mem_pascalCase (hnumber : t.hasOtherNumber = false) :
    ∀ c ∈ t.pascalCase, c.isIdentifierPart = true := by
  rw [← t.any_words] at hnumber
  exact isIdentifierPart_of_mem_flatMap_capitalize (fun _ => isWord_of_mem_words) hnumber

end Text

/-! ## Fields -/

theorem isIdentifierPart_of_mem_toString {n : Nat} :
    ∀ c ∈ ((toString n : String) : Text), c.isIdentifierPart = true := by
  intro c hc
  obtain ⟨d, rfl, hfirst, hlast⟩ := exists_digit_of_mem_toString hc
  have hdecimal : (CodePoint.scalar d).category? = some .Nd :=
    categoryIn_of_mem (e := (0x30, 0x39, .Nd)) categoryRanges_ascend List.mem_cons_self hfirst hlast
  simp [CodePoint.isIdentifierPart, hdecimal]

namespace FieldScope

/-- What is added to a name that is not free may stand in an identifier. -/
theorem exists_free_eq (taken : List Text) (name : Text) :
    ∃ rest, free taken name "_" = name ++ rest ∧ ∀ c ∈ rest, c.isIdentifierPart = true := by
  have hnumbered : ∀ n, ∃ rest, numbered name "_" n = name ++ rest ∧
      ∀ c ∈ rest, c.isIdentifierPart = true := fun n =>
    ⟨("_" : Text) ++ (toString n : Text), List.append_assoc _ _ _,
      List.forall_mem_append.mpr ⟨by decide, isIdentifierPart_of_mem_toString⟩⟩
  rw [free]
  split
  · split <;> exact hnumbered _
  · exact ⟨[], (List.append_nil name).symm, by simp⟩

/-- The name of a field is the identifier that its key asks for, and more that may follow. -/
theorem exists_assign_eq (scope : FieldScope) (key : Text) :
    ∃ rest, (scope.assign key).1 = identifier key ++ rest ∧
      ∀ c ∈ rest, c.isIdentifierPart = true := by
  rw [assign]
  dsimp only
  split
  · obtain ⟨rest, hname, hparts⟩ := exists_free_eq scope.taken (identifier key ++ ("_" : Text))
    refine ⟨("_" : Text) ++ rest, hname.trans (List.append_assoc _ _ _), ?_⟩
    exact List.forall_mem_append.mpr ⟨by decide, hparts⟩
  · exact exists_free_eq scope.taken (identifier key)

theorem hasOtherNumber_identifier (key : Text) :
    (identifier key).hasOtherNumber = key.hasOtherNumber := by
  rw [identifier]
  split
  · rename_i hempty
    rw [← key.hasOtherNumber_camelCase, List.isEmpty_iff.mp hempty]
    decide
  · simp

theorem isIdentifier_identifier {key : Text} (h : key.hasOtherNumber = false) :
    (identifier key).IsIdentifier := by
  rw [identifier]
  split
  · exact ⟨_, _, rfl, by decide, by decide⟩
  · rename_i hne
    exact (Text.isStem_camelCase (by simpa using hne) h).guardDigit

/-- **A field is given a legal identifier iff its key holds no other number.** -/
theorem isIdentifier_assign_iff (scope : FieldScope) (key : Text) :
    (scope.assign key).1.IsIdentifier ↔ key.hasOtherNumber = false := by
  obtain ⟨rest, hname, hparts⟩ := exists_assign_eq scope key
  rw [hname]
  constructor
  · intro h
    have hnone := Text.hasOtherNumber_of_parts h.parts
    rw [Text.hasOtherNumber_append, Bool.or_eq_false_iff] at hnone
    rw [← hasOtherNumber_identifier]
    exact hnone.1
  · exact fun h => (isIdentifier_identifier h).append hparts

end FieldScope

/-! ## Declarations -/

namespace NamingConvention

theorem hasOtherNumber_baseName (hint : Text) :
    (baseName hint).hasOtherNumber = hint.hasOtherNumber := by
  rw [baseName]
  split
  · rename_i hempty
    rw [← hint.hasOtherNumber_pascalCase, List.isEmpty_iff.mp hempty]
    decide
  · simp

theorem isStem_baseName {hint : Text} (h : hint.hasOtherNumber = false) :
    (baseName hint).IsStem := by
  rw [baseName]
  split
  · exact ⟨_, _, rfl, by decide, by decide⟩
  · rename_i hne
    exact Text.isStem_pascalCase (by simpa using hne) h

variable {convention : NamingConvention} {suffix hint : Text} {fromKey : Bool}

theorem hasOtherNumber_decorated (hlead : convention.lead.hasOtherNumber = false)
    (htrail : convention.trail.hasOtherNumber = false) :
    (convention.decorated suffix hint fromKey).hasOtherNumber =
      (hint.hasOtherNumber || suffix.hasOtherNumber) := by
  have hled : (convention.addLead fromKey (baseName hint)).hasOtherNumber =
      hint.hasOtherNumber := by
    rw [addLead]
    split <;> simp [hlead, hasOtherNumber_baseName]
  rw [decorated, addTrail]
  split <;> simp [htrail, hled]

theorem isStem_decorated (hlead : convention.lead = [] ∨ convention.lead.IsIdentifier)
    (htrail : ∀ c ∈ convention.trail, c.isIdentifierPart = true)
    (hhint : hint.hasOtherNumber = false) (hsuffix : suffix.hasOtherNumber = false) :
    (convention.decorated suffix hint fromKey).IsStem := by
  have hbase := isStem_baseName hhint
  have hled : (convention.addLead fromKey (baseName hint)).IsStem := by
    rw [addLead]
    split
    · rcases hlead with hnone | hlead
      · rwa [hnone]
      · exact hlead.isStem.append hbase.parts
    · exact hbase
  have hsuffixed := hled.append (Text.isIdentifierPart_of_mem_pascalCase hsuffix)
  rw [decorated, addTrail]
  split
  · exact hsuffixed.append htrail
  · exact hsuffixed

/-- **A declaration is given a legal identifier iff neither its hint nor the suffix holds another
number**, if the convention adds nothing else. -/
theorem isIdentifier_declarationName_iff
    (hlead : convention.lead = [] ∨ convention.lead.IsIdentifier)
    (htrail : ∀ c ∈ convention.trail, c.isIdentifierPart = true) :
    (convention.declarationName suffix hint fromKey).IsIdentifier ↔
      hint.hasOtherNumber = false ∧ suffix.hasOtherNumber = false := by
  show (convention.decorated suffix hint fromKey).guardDigit.IsIdentifier ↔ _
  constructor
  · intro h
    have hlead : convention.lead.hasOtherNumber = false := by
      rcases hlead with hnone | hlead
      · rw [hnone]
        rfl
      · exact Text.hasOtherNumber_of_parts hlead.parts
    have hnone := Text.hasOtherNumber_of_parts h.parts
    rw [Text.hasOtherNumber_guardDigit,
      hasOtherNumber_decorated hlead (Text.hasOtherNumber_of_parts htrail)] at hnone
    exact Bool.or_eq_false_iff.mp hnone
  · rintro ⟨hhint, hsuffix⟩
    exact (isStem_decorated hlead htrail hhint hsuffix).guardDigit

end NamingConvention

end SampleTypes
