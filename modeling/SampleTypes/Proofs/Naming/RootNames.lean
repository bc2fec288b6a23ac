import SampleTypes.Proofs.Naming.PascalCase
import SampleTypes.Target.Basic

/-!
# Names that are alike, and names that are kept

Two questions about declaration names, both answered by what their hints are in Pascal case.

* **Which keys are named alike?** Those that are alike in Pascal case, a key without word characters
  being alike to `Field` (`NamingConvention.named_alike_iff`): decoration loses nothing, under any
  convention and suffix.
* **Which root names are kept** when a generated name is given as a root name again? Neither target
  decorates it twice if it sees the decoration. But the name is split into words again, and a lead is
  seen only before an upper-case letter; so a name is kept iff it is one word, and for TypeScript iff
  moreover an upper-case letter followed the lead (`Target.rootName_kept_iff`).
-/

set_option autoImplicit false

namespace SampleTypes

/-! ## Keys that are named alike -/

/-- The hint in Pascal case; one that holds no word character counts as `Field`. -/
def Text.pascalForm (hint : Text) : Text :=
  if hint.any CodePoint.isWord then hint.pascalCase else ("Field" : Text)

namespace NamingConvention

theorem baseName_eq_pascalForm (hint : Text) : baseName hint = hint.pascalForm := by
  rw [baseName, Text.pascalForm]
  cases hwords : hint.any CodePoint.isWord with
  | false => simp [Text.pascalCase_eq_nil_iff.mpr hwords]
  | true =>
    have hne : hint.pascalCase ≠ [] := fun hnil =>
      absurd (Text.pascalCase_eq_nil_iff.mp hnil) (by simp [hwords])
    simp [hne]

/-- **Keys are named alike iff they are alike in Pascal case**, whatever the convention and the suffix. No
name is empty, be it a key's or the root's, nor is it before the guard against digits looks at what it
opens with. -/
theorem named_alike_iff (convention : NamingConvention) (suffix : Text) :
    (∀ key key' : Text, convention.declarationName suffix key true =
        convention.declarationName suffix key' true ↔ key.pascalForm = key'.pascalForm) ∧
      ∀ (hint : Text) (fromKey : Bool), ∃ c rest,
        convention.decorated suffix hint fromKey = c :: rest ∧
        convention.declarationName suffix hint fromKey =
          if c.isDigit then .scalar '_' :: c :: rest else c :: rest := by
  refine ⟨fun key key' => ?_, fun hint fromKey => ?_⟩
  · rw [declarationName_inj, baseName_eq_pascalForm, baseName_eq_pascalForm]
  · obtain ⟨c, rest, hdecorated⟩ :=
      List.exists_cons_of_ne_nil (convention.decorated_ne_nil suffix hint fromKey)
    refine ⟨c, rest, hdecorated, ?_⟩
    show (convention.decorated suffix hint fromKey).guardDigit = _
    rw [hdecorated]
    rfl

/-! ## What a base name opens with -/

theorem head?_baseName_opens (hint : Text) :
    ∀ c ∈ (baseName hint).head?, c.isWord = true ∧ c.upperCase = [c] := by
  rw [baseName]
  split
  · decide
  · exact Text.head?_pascalCase

theorem capitalize_baseName (hint : Text) : (baseName hint).capitalize = baseName hint := by
  have hopens := head?_baseName_opens hint
  obtain ⟨c, rest, hbase⟩ := List.exists_cons_of_ne_nil (isName_baseName hint).1
  rw [hbase] at hopens ⊢
  exact Text.capitalize_eq_self_iff.mpr (hopens c rfl).2

theorem baseName_of_pascalCase_ne_nil {hint : Text} (h : hint.pascalCase ≠ []) :
    baseName hint = hint.pascalCase := by
  rw [baseName, if_neg (by simpa using h)]

/-- A base name is one word iff the words of the hint open with characters whose upper-case forms are
made of word characters. -/
theorem isWord_baseName_iff (hint : Text) : (baseName hint).IsWord ↔
    ∀ w ∈ hint.words, ∀ c ∈ w.head?, ∀ d ∈ c.upperCase, d.isWord = true := by
  rw [← Text.forall_mem_pascalCase_iff, Text.IsWord, and_iff_right (isName_baseName hint).1, baseName]
  split
  · rename_i hempty
    rw [List.isEmpty_iff.mp hempty]
    exact iff_of_true (by decide) (by simp)
  · exact Iff.rfl

/-! ## Decoration of root names -/

variable {convention : NamingConvention} {name : Text}

theorem carriesLead_iff : convention.carriesLead name = true ↔ convention.lead ≠ [] ∧
    ∃ c rest, name = convention.lead ++ c :: rest ∧ c.isUpper = true := by
  rw [carriesLead, Bool.and_eq_true, Bool.and_eq_true, Bool.not_eq_true', List.isEmpty_eq_false_iff,
    List.isPrefixOf_iff_prefix]
  constructor
  · rintro ⟨⟨hlead, rest, rfl⟩, hupper⟩
    rw [List.drop_left] at hupper
    cases rest with
    | nil => exact absurd hupper (by simp)
    | cons c rest => exact ⟨hlead, c, rest, rfl, hupper⟩
  · rintro ⟨hlead, c, rest, rfl, hupper⟩
    refine ⟨⟨hlead, List.prefix_append _ _⟩, ?_⟩
    rw [List.drop_left]
    exact hupper

theorem addLead_of_carriesLead (h : convention.carriesLead name = true) :
    convention.addLead false name = name := by
  rw [addLead, h]
  rfl

theorem addLead_of_not_carriesLead (h : convention.carriesLead name = false) :
    convention.addLead false name = convention.lead ++ name := by
  rw [addLead, h]
  rfl

theorem addTrail_of_isSuffix (h : convention.trail <:+ name) :
    convention.addTrail false name = name := by
  rw [addTrail, List.isSuffixOf_iff_suffix.mpr h]
  rfl

theorem addTrail_of_not_isSuffix (h : ¬ convention.trail <:+ name) :
    convention.addTrail false name = name ++ convention.trail := by
  rw [addTrail, Bool.eq_false_iff.mpr (mt List.isSuffixOf_iff_suffix.mp h)]
  rfl

/-- Either way, a root name ends in the trail. -/
theorem isSuffix_addTrail : convention.trail <:+ convention.addTrail false name := by
  by_cases h : convention.trail <:+ name
  · rwa [addTrail_of_isSuffix h]
  · rw [addTrail_of_not_isSuffix h]
    exact List.suffix_append _ _

end NamingConvention

open NamingConvention

namespace Target

/-- The name of a declaration under a root name, without a suffix. -/
def rootName (target : Target) (hint : Text) : Text :=
  target.convention.declarationName [] hint false

theorem rootName_eq (target : Target) (hint : Text) : target.rootName hint =
    (target.convention.addTrail false
      (target.convention.addLead false (baseName hint))).guardDigit := by
  rw [rootName, declarationName, show Text.pascalCase [] = [] from rfl, List.append_nil]

/-! ## Interfaces -/

/-- The lead of an interface. -/
def capitalI : CodePoint := .scalar 'I'

theorem exists_addLead_typescript (name : Text) :
    ∃ rest, typescript.convention.addLead false name = capitalI :: rest := by
  cases h : typescript.convention.carriesLead name with
  | true =>
    obtain ⟨_, c, rest, rfl, _⟩ := carriesLead_iff.mp h
    exact ⟨c :: rest, addLead_of_carriesLead h⟩
  | false => exact ⟨name, addLead_of_not_carriesLead h⟩

theorem rootName_typescript (hint : Text) :
    typescript.rootName hint = typescript.convention.addLead false (baseName hint) := by
  obtain ⟨rest, hled⟩ := exists_addLead_typescript (baseName hint)
  rw [rootName_eq, addTrail_of_isSuffix List.nil_suffix, hled]
  rfl

/-- A name with a lead carries it iff an upper-case letter follows it, and it follows no other lead. -/
theorem carriesLead_addLead_typescript_iff (name : Text) :
    typescript.convention.carriesLead (typescript.convention.addLead false name) = true ↔
      ∃ c ∈ name.head?, c.isUpper = true := by
  cases h : typescript.convention.carriesLead name with
  | true =>
    rw [addLead_of_carriesLead h]
    obtain ⟨_, c, rest, rfl, _⟩ := carriesLead_iff.mp h
    exact iff_of_true h ⟨capitalI, rfl, by decide⟩
  | false =>
    rw [addLead_of_not_carriesLead h, carriesLead_iff]
    constructor
    · rintro ⟨_, c, rest, hname, hupper⟩
      rw [List.append_cancel_left hname]
      exact ⟨c, rfl, hupper⟩
    · rintro ⟨c, hc, hupper⟩
      refine ⟨by decide, c, name.tail, ?_, hupper⟩
      rw [List.cons_head?_tail hc]

theorem isWord_addLead_typescript_iff {name : Text} (hne : name ≠ []) :
    (typescript.convention.addLead false name).IsWord ↔ name.IsWord := by
  cases h : typescript.convention.carriesLead name with
  | true => rw [addLead_of_carriesLead h]
  | false =>
    rw [addLead_of_not_carriesLead h, Text.IsWord, List.forall_mem_append]
    exact ⟨fun hword => ⟨hne, hword.2.2⟩, fun hword => ⟨by simp [hne], by decide, hword.2⟩⟩

/-- The lead before a name in Pascal case leads to no other name than the one that is so already and
carries it. A second lead is never needed, for the lead before it is followed by a capital. -/
theorem addLead_pascalCase_typescript_iff (rest : Text) :
    typescript.convention.addLead false (Text.pascalCase (capitalI :: rest)) = capitalI :: rest ↔
      Text.pascalCase (capitalI :: rest) = capitalI :: rest ∧
        typescript.convention.carriesLead (capitalI :: rest) = true := by
  have hopens : ∀ u : Text, u.IsWord → u.capitalize = u → ∀ t, u <+: (u ++ t).pascalCase :=
    fun _ hu hcapital => Text.isPrefix_pascalCase hu hcapital
  cases h : typescript.convention.carriesLead (Text.pascalCase (capitalI :: rest)) with
  | true =>
    rw [addLead_of_carriesLead h]
    exact ⟨fun hkept => ⟨hkept, hkept ▸ h⟩, And.left⟩
  | false =>
    rw [addLead_of_not_carriesLead h]
    refine iff_of_false (fun hkept => ?_) fun hkept => ?_
    · have hrest : Text.pascalCase (capitalI :: rest) = rest := (List.cons.inj hkept).2
      obtain ⟨later, hlater⟩ := hopens [capitalI] ⟨by simp, by decide⟩ (by decide) rest
      rw [List.singleton_append, List.singleton_append, hrest] at hlater
      obtain ⟨after, hafter⟩ := hopens [capitalI, capitalI] ⟨by simp, by decide⟩ (by decide) later
      have hcarried : typescript.convention.carriesLead
          (Text.pascalCase (capitalI :: rest)) = true := by
        refine carriesLead_iff.mpr ⟨by decide, capitalI, after, ?_, by decide⟩
        rw [← hlater]
        exact hafter.symm
      exact absurd hcarried (by simp [h])
    · rw [hkept.1] at h
      exact absurd hkept.2 (by simp [h])

theorem rootName_typescript_kept_iff (hint : Text) :
    typescript.rootName (typescript.rootName hint) = typescript.rootName hint ↔
      (baseName hint).IsWord ∧ ∃ c ∈ (baseName hint).head?, c.isUpper = true := by
  have hword := isWord_addLead_typescript_iff (isName_baseName hint).1
  have hcarries := carriesLead_addLead_typescript_iff (baseName hint)
  rw [rootName_typescript hint, rootName_typescript, ← hword, ← hcarries]
  obtain ⟨rest, hled⟩ := exists_addLead_typescript (baseName hint)
  rw [hled]
  have hne : Text.pascalCase (capitalI :: rest) ≠ [] := fun hnil =>
    absurd (Text.pascalCase_eq_nil_iff.mp hnil) (by simp [show capitalI.isWord = true by decide])
  have hcapital : Text.capitalize (capitalI :: rest) = capitalI :: rest :=
    Text.capitalize_eq_self_iff.mpr (by decide)
  rw [baseName_of_pascalCase_ne_nil hne, addLead_pascalCase_typescript_iff,
    Text.pascalCase_eq_self_iff (List.cons_ne_nil _ _), and_iff_left hcapital]

/-! ## Data classes -/

theorem rootName_java (hint : Text) :
    java.rootName hint = (java.convention.addTrail false (baseName hint)).guardDigit := by
  have hbare : java.convention.carriesLead (baseName hint) = false := rfl
  rw [rootName_eq, addLead_of_not_carriesLead hbare]
  rfl

/-- What is added to the name of a class goes on with its last word. -/
theorem exists_addTrail_java (name : Text) : ∃ rest : Text,
    java.convention.addTrail false name = name ++ rest ∧ ∀ c ∈ rest, c.isWord = true := by
  by_cases h : java.convention.trail <:+ name
  · exact ⟨[], by rw [addTrail_of_isSuffix h, List.append_nil], by simp⟩
  · exact ⟨_, addTrail_of_not_isSuffix h, by decide⟩

theorem isWord_addTrail_java_iff {name : Text} (hne : name ≠ []) :
    (java.convention.addTrail false name).IsWord ↔ name.IsWord := by
  obtain ⟨rest, htrailed, hrest⟩ := exists_addTrail_java name
  rw [htrailed, Text.IsWord, List.forall_mem_append, and_iff_left hrest, Text.IsWord]
  exact ⟨fun h => ⟨hne, h.2⟩, fun h => ⟨by simp [hne], h.2⟩⟩

/-- The guard against digits hides no difference between a name and its Pascal case. -/
theorem guardDigit_pascalCase_eq_iff {name : Text} (h : name.head? ≠ some (.scalar '_')) :
    name.pascalCase.guardDigit = name.guardDigit ↔ name.pascalCase = name := by
  have hpascal : name.pascalCase.head? ≠ some (.scalar '_') := fun hunderscore =>
    absurd (Text.head?_pascalCase _ hunderscore).1 (by decide)
  exact ⟨guardDigit_inj hpascal h, congrArg Text.guardDigit⟩

theorem rootName_java_kept_iff (hint : Text) :
    java.rootName (java.rootName hint) = java.rootName hint ↔ (baseName hint).IsWord := by
  have hbase : baseName hint ≠ [] := (isName_baseName hint).1
  have hword := isWord_addTrail_java_iff hbase
  obtain ⟨rest, htrailed, -⟩ := exists_addTrail_java (baseName hint)
  have hends := @isSuffix_addTrail java.convention (baseName hint)
  rw [rootName_java hint, rootName_java, ← hword]
  generalize java.convention.addTrail false (baseName hint) = name at htrailed hends ⊢
  -- The name ends in the trail, and so does what becomes of it in Pascal case.
  have hkeeps : java.convention.trail <:+ name.pascalCase := by
    obtain ⟨before, rfl⟩ := hends
    exact Text.isSuffix_pascalCase ⟨by decide, by decide⟩ (by decide) before
  have hne : name.guardDigit.pascalCase ≠ [] := by
    rw [Text.pascalCase_guardDigit]
    rintro hnil
    rw [hnil] at hkeeps
    exact absurd (List.suffix_nil.mp hkeeps) (by decide)
  rw [baseName_of_pascalCase_ne_nil hne, Text.pascalCase_guardDigit, addTrail_of_isSuffix hkeeps]
  have hhead : name.head? ≠ some (.scalar '_') := by
    rw [htrailed, List.head?_append_of_ne_nil _ hbase]
    exact head?_baseName hint
  have hcapital : name.capitalize = name := by
    rw [htrailed, Text.capitalize_append hbase, capitalize_baseName]
  rw [guardDigit_pascalCase_eq_iff hhead, Text.pascalCase_eq_self_iff (by simp [htrailed, hbase]),
    and_iff_left hcapital]

/-! ## Root names that are kept -/

/-- **A name is kept as a root name iff the words of its hint open with characters whose upper-case forms
are made of word characters, and, if it is an interface's, an upper-case letter follows the lead.** What a
root name carries already, lead or trail, is not added to it. -/
theorem rootName_kept_iff (target : Target) (hint : Text) :
    (target.rootName (target.rootName hint) = target.rootName hint ↔
      (∀ w ∈ hint.words, ∀ c ∈ w.head?, ∀ d ∈ c.upperCase, d.isWord = true) ∧
        (target = .typescript → ∃ c ∈ (baseName hint).head?, c.isUpper = true)) ∧
      (target.convention.carriesLead (baseName hint) = true → target.rootName hint = baseName hint) ∧
      (target = .java → target.convention.trail <:+ baseName hint →
        target.rootName hint = (baseName hint).guardDigit) := by
  rw [← isWord_baseName_iff]
  cases target with
  | typescript =>
    refine ⟨?_, fun hcarries => ?_, by simp⟩
    · rw [rootName_typescript_kept_iff]
      simp
    · rw [rootName_typescript, addLead_of_carriesLead hcarries]
  | java =>
    refine ⟨?_, fun hcarries => absurd hcarries (by simp [carriesLead_iff, convention]),
      fun _ htrail => ?_⟩
    · rw [rootName_java_kept_iff]
      simp
    · rw [rootName_java, addTrail_of_isSuffix htrail]

/-- A product keeps its decoration, whichever target it is meant for. -/
theorem rootName_kept_of_product :
    typescript.rootName "IProduct" = "IProduct" ∧ java.rootName "productDto" = "ProductDto" := by
  obtain ⟨_, hlead, _⟩ := rootName_kept_iff .typescript "IProduct"
  obtain ⟨_, _, htrail⟩ := rootName_kept_iff .java "productDto"
  exact ⟨(hlead (by decide)).trans (by decide), (htrail rfl (by decide)).trans (by decide)⟩

/-- No upper-case letter follows the lead of `I2fa`, so it gets a second one; and the upper-case form of
`ǰ` is a letter with a mark, which is lost when the name is split into words. -/
theorem rootName_not_kept :
    typescript.rootName "2fa" = "I2fa" ∧ typescript.rootName "I2fa" ≠ "I2fa" ∧
      java.rootName "ǰ" = "J\u030cDto" ∧ java.rootName "J\u030cDto" ≠ "J\u030cDto" := by
  decide

end Target

end SampleTypes
