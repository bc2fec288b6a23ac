import SampleTypes.Proofs.Naming.Names
import SampleTypes.Proofs.Shapes.Store
import SampleTypes.Proofs.Target.Layout

/-!
# Lines of generated code that are laid out already

> **The code of a declaration has its final layout as it is written** (`Target.neat_unitLines`).

So has the header of classes, and the imports of an interface. This needs names that are names
(`Declaration.Clean`), and a package and a policy that stay on their lines (`Settings.Unbroken`). Keys
need nothing: a literal stays on its line whatever it is of.
-/

set_option autoImplicit false

namespace SampleTypes

open CodePoint (lineFeed)
open Text (IsName Neat)

/-- Settings of which no text holds white space. -/
structure Settings.Spaceless (settings : Settings) : Prop where
  packageName : ∀ c ∈ settings.packageName, c.isBlank = false
  jsonInclude : ∀ policy, settings.jsonInclude = some policy → ∀ c ∈ policy, c.isBlank = false

/-- Settings of which no text goes on on another line. -/
structure Settings.Unbroken (settings : Settings) : Prop where
  packageName : lineFeed ∉ settings.packageName
  jsonInclude : ∀ policy, settings.jsonInclude = some policy → lineFeed ∉ policy

theorem notMem_of_spaceless {t : Text} (h : ∀ c ∈ t, c.isBlank = false) : lineFeed ∉ t := by
  intro hmem
  exact absurd (h _ hmem) (by decide)

instance (settings : Settings) : Coe settings.Spaceless settings.Unbroken where
  coe h := ⟨notMem_of_spaceless h.packageName, fun policy hpolicy =>
    notMem_of_spaceless (h.jsonInclude policy hpolicy)⟩

/-- The settings that a user begins with hold no white space. -/
theorem Settings.spaceless_default : Settings.Spaceless {} := by
  refine ⟨by decide, fun policy hpolicy => ?_⟩
  rw [← Option.some.inj hpolicy]
  decide

/-- A declaration in which all that should be a name is one. -/
structure Declaration.Clean (d : Declaration) : Prop where
  name : IsName d.name
  field : ∀ field ∈ d.fields, IsName field.name
  reference : ∀ field ∈ d.fields, ∀ name, field.type.reference? = some name → IsName name
  filled : d.Filled

/-! ## What holds no line feed -/

theorem Text.IsName.notMem {t : Text} (h : IsName t) {c : CodePoint}
    (hc : c.isNamePart = false) : c ∉ t := by
  intro hmem
  rw [h.2 c hmem] at hc
  exact absurd hc (by simp)

/-- A level of indentation is made of tabs and spaces. -/
theorem mem_indent {settings : Settings} {indent : Text} (h : settings.indent = .ok indent) :
    ∀ c ∈ indent, c = .scalar '\t' ∨ c = .scalar ' ' := by
  intro c hc
  simp only [Settings.indent] at h
  split at h
  · rw [← Except.ok.inj h] at hc
    exact Or.inl (List.mem_singleton.mp hc)
  · split at h
    · exact absurd h (by simp)
    · split at h
      · exact absurd h (by simp)
      · rw [← Except.ok.inj h] at hc
        exact Or.inr (List.eq_of_mem_replicate hc)

theorem lineFeed_notMem_indent {settings : Settings} {indent : Text}
    (h : settings.indent = .ok indent) : lineFeed ∉ indent := by
  intro hmem
  rcases mem_indent h _ hmem with hc | hc <;> exact absurd hc (by decide)

/-- The marks of types. -/
def typeMarks : Text := "[]<>"

theorem mem_typeText (target : Target) {type : FieldType}
    (h : ∀ name, type.reference? = some name → IsName name) :
    ∀ c ∈ target.typeText type, c.isNamePart = true ∨ c ∈ typeMarks := by
  induction type with
  | list element ih =>
    intro c hc
    have hmarks : ∀ c ∈ ("[]" : Text) ++ ("List<" : Text) ++ (">" : Text),
        c.isNamePart = true ∨ c ∈ typeMarks := by decide
    cases target with
    | typescript =>
      rcases List.mem_append.mp hc with hc | hc
      · exact ih h c hc
      · exact hmarks c (List.mem_append_left _ (List.mem_append_left _ hc))
    | java =>
      rcases List.mem_append.mp hc with hc | hc
      · rcases List.mem_append.mp hc with hc | hc
        · exact hmarks c (List.mem_append_left _ (List.mem_append_right _ hc))
        · exact ih h c hc
      · exact hmarks c (List.mem_append_right _ hc)
  | ref name => exact fun c hc => Or.inl ((h name rfl).2 c hc)
  | string | boolean | any => cases target <;> exact fun c hc => Or.inl (by revert c; decide)
  | number integral =>
    cases target <;> cases integral <;> exact fun c hc => Or.inl (by revert c; decide)

theorem notMem_typeText (target : Target) {type : FieldType}
    (h : ∀ name, type.reference? = some name → IsName name) {c : CodePoint}
    (hpart : c.isNamePart = false) (hmark : c ∉ typeMarks) : c ∉ target.typeText type := by
  intro hmem
  rcases mem_typeText target h c hmem with hc | hc
  · rw [hpart] at hc
    exact absurd hc (by simp)
  · exact hmark hc

/-- A control character is escaped. -/
theorem notMem_literalChar {c d : Char} (hd : d.toNat < 0x20) : d ∉ literalChar c := by
  by_cases hc : c.toNat < 0x20
  · have hall : ∀ n < 0x20, ∀ m < 0x20, Char.ofNat m ∉ literalChar (Char.ofNat n) := by
      decide +kernel
    have := hall c.toNat hc d.toNat hd
    rwa [Char.ofNat_toNat, Char.ofNat_toNat] at this
  · have hne : c ≠ d := by
      rintro rfl
      exact hc hd
    have hmarks : d ≠ '"' ∧ d ≠ '\\' := by
      constructor <;> rintro rfl <;> exact absurd hd (by decide)
    unfold literalChar
    split
    case h_8 => simp [hc, hne.symm]
    case h_1 => simp [hmarks]
    case h_2 => simp [hmarks]
    all_goals exact absurd (by decide) hc

/-- **A literal stays on its line.** -/
theorem lineFeed_notMem_literal (t : Text) : lineFeed ∉ t.literal := by
  have hbody : lineFeed ∉ t.flatMap CodePoint.literal := by
    intro hmem
    obtain ⟨c, _, hc⟩ := List.mem_flatMap.mp hmem
    cases c with
    | scalar c =>
      obtain ⟨d, hd, heq⟩ := List.mem_map.mp hc
      exact notMem_literalChar (by decide) (CodePoint.scalar.inj heq ▸ hd)
    | surrogate half => exact absurd (List.mem_singleton.mp hc) (by simp [lineFeed])
  simp only [Text.literal, List.mem_append, not_or]
  exact ⟨⟨by decide, hbody⟩, by decide⟩

/-! ## Neat blocks -/

namespace Text

/-- A line with something on it, up to its end. -/
structure IsLine (l : Text) : Prop where
  nonempty : l ≠ []
  unbroken : lineFeed ∉ l
  trimmed : trimEnd l = l

instance (l : Text) : Decidable (IsLine l) :=
  decidable_of_iff (l ≠ [] ∧ lineFeed ∉ l ∧ trimEnd l = l)
    ⟨fun ⟨hne, hunbroken, htrim⟩ => ⟨hne, hunbroken, htrim⟩,
      fun h => ⟨h.nonempty, h.unbroken, h.trimmed⟩⟩

/-- What stands before the end of a line has only to be on it. -/
theorem IsLine.append {s t : Text} (hs : lineFeed ∉ s) (ht : IsLine t) : IsLine (s ++ t) := by
  obtain ⟨hne, hunbroken, htrim⟩ := ht
  refine ⟨List.append_ne_nil_of_right_ne_nil s hne, by simp [hs, hunbroken], ?_⟩
  cases t using List.reverseRecOn with
  | nil => exact absurd rfl hne
  | append_singleton t c =>
    have hc : c.isBlank = false := by
      -- Were it blank, the line without its blank end would be shorter.
      by_contra hblank
      have hshort : (trimEnd (t ++ [c])).length ≤ t.length := by
        simp only [trimEnd, List.reverse_append, List.reverse_singleton, List.singleton_append,
          List.length_reverse]
        rw [List.dropWhile_cons_of_pos (Bool.of_not_eq_false hblank)]
        exact (List.dropWhile_suffix _).length_le.trans (by simp)
      rw [htrim, List.length_append, List.length_singleton] at hshort
      omega
    rw [← List.append_assoc]
    exact trimEnd_snoc _ hc

theorem Neat.of_isLine {ls : List Text} (hne : ls ≠ []) (h : ∀ l ∈ ls, IsLine l) : Neat ls := by
  refine ⟨hne, fun l hl => (h l hl).unbroken, fun l hl => (h l hl).trimmed, ?_, ?_, ?_⟩
  · refine List.Pairwise.isChain (List.pairwise_of_forall_mem_list fun l hl m _ hempty => ?_)
    exact absurd hempty (h l hl).nonempty
  · intro hempty
    exact (h [] (List.mem_of_mem_head? hempty)).nonempty rfl
  · intro hempty
    exact (h [] (List.mem_of_getLast? hempty)).nonempty rfl

end Text

open Text (IsLine)

theorem Settings.Unbroken.packageOf {settings : Settings} (h : settings.Unbroken) :
    lineFeed ∉ Target.packageOf settings := by
  rw [Target.packageOf]
  split
  · decide
  · exact h.packageName

theorem Settings.Unbroken.isLine_annotationLine {settings : Settings} (h : settings.Unbroken)
    {tag : Text} (ha : tag ∈ Target.classAnnotations settings) : IsLine (annotationLine tag) := by
  rcases Target.mem_classAnnotations ha with ha | ⟨policy, hpolicy, rfl⟩
  · have hall : ∀ tag ∈ Target.lombokAnnotations, IsLine (annotationLine tag) := by decide
    exact hall tag ha
  · rw [annotationLine, Target.includeAnnotation, ← List.append_assoc]
    refine IsLine.append ?_ (by decide)
    simp only [List.mem_append, not_or]
    exact ⟨by decide, by decide, h.jsonInclude policy hpolicy⟩

namespace Target

variable {settings : Settings} {indent : Text}

theorem lineFeed_notMem_classImports (settings : Settings) (ds : List Declaration) :
    ∀ statement ∈ classImports settings ds, lineFeed ∉ statement := by
  rw [classImports]
  cases (policyOf settings).isSome <;> cases settings.useLombok <;>
    cases ds.any Declaration.usesLists <;> decide

theorem neat_headerLines (hs : settings.Unbroken) (ds : List Declaration) :
    Neat (headerLines settings (classImports settings ds)) := by
  have hpackage : Neat [("package " : Text) ++ packageOf settings ++ (";" : Text)] := by
    refine Neat.of_isLine (by simp) fun l hl => ?_
    rw [List.mem_singleton.mp hl]
    refine IsLine.append ?_ (by decide)
    simp only [List.mem_append, not_or]
    exact ⟨by decide, hs.packageOf⟩
  refine hpackage.append (Neat.of_isLine (by simp [classImports]) fun l hl => ?_)
  obtain ⟨statement, hmem, rfl⟩ := List.mem_map.mp hl
  refine IsLine.append ?_ (by decide)
  simp only [List.mem_append, not_or]
  exact ⟨by decide, lineFeed_notMem_classImports settings ds statement hmem⟩

theorem neat_interfaceImportLines {d : Declaration} (hd : d.Clean) (hne : interfaceImports d ≠ []) :
    Neat ((interfaceImports d).map interfaceImportLine) := by
  refine Neat.of_isLine (by simpa using hne) fun l hl => ?_
  obtain ⟨name, hname, rfl⟩ := List.mem_map.mp hl
  obtain ⟨field, hfield, href⟩ :=
    hd.filled.mem_dependencies_iff.mp (List.mem_filter.mp hname).1
  have hbreak : lineFeed ∉ name := (hd.reference field hfield name href).notMem (by decide)
  refine IsLine.append ?_ (by decide)
  simp only [List.mem_append, not_or]
  exact ⟨⟨⟨by decide, hbreak⟩, by decide⟩, hbreak⟩

theorem isLine_declarationLine (target : Target) {name : Text} (h : IsName name) :
    IsLine (target.declarationLine settings name) := by
  have hname : lineFeed ∉ name := h.notMem (by decide)
  cases target with
  | typescript =>
    refine IsLine.append ?_ (by decide)
    simp only [List.mem_append, not_or]
    refine ⟨⟨?_, by decide⟩, hname⟩
    split <;> decide
  | java =>
    refine IsLine.append ?_ (by decide)
    simp only [List.mem_append, not_or]
    exact ⟨by decide, hname⟩

theorem isLine_of_mem_fieldLines (target : Target) (hindent : settings.indent = .ok indent)
    {d : Declaration} (hd : d.Clean) {field : Field} (hfield : field ∈ d.fields) :
    ∀ l ∈ target.fieldLines indent field, IsLine l := by
  have hindent := lineFeed_notMem_indent hindent
  have hname : lineFeed ∉ field.name := (hd.field field hfield).notMem (by decide)
  have htype : ∀ target : Target, lineFeed ∉ target.typeText field.type := fun target =>
    notMem_typeText target (hd.reference field hfield) (by decide) (by decide)
  intro l hl
  cases target with
  | typescript =>
    rw [List.mem_singleton.mp hl]
    refine IsLine.append ?_ (by decide)
    simp only [List.mem_append, not_or]
    exact ⟨⟨⟨hindent, hname⟩, by decide⟩, htype typescript⟩
  | java =>
    rcases List.mem_pair.mp hl with rfl | rfl
    · refine IsLine.append ?_ (by decide)
      simp only [List.mem_append, not_or]
      exact ⟨⟨hindent, by decide⟩, lineFeed_notMem_literal field.key⟩
    · refine IsLine.append ?_ (by decide)
      simp only [List.mem_append, not_or]
      exact ⟨⟨⟨⟨hindent, by decide⟩, htype java⟩, by decide⟩, hname⟩

/-- **The code of a declaration has its final layout already.** -/
theorem neat_unitLines (target : Target) (hs : settings.Unbroken)
    (hindent : settings.indent = .ok indent) {d : Declaration} (hd : d.Clean) :
    Neat (target.unitLines settings indent d) := by
  have hend : IsLine ("\x7d" : Text) := by decide
  cases target with
  | typescript =>
    refine Neat.of_isLine (by simp [unitLines]) fun l hl => ?_
    simp only [unitLines, List.mem_cons, List.mem_append, List.mem_flatMap, List.not_mem_nil,
      or_false] at hl
    rcases hl with rfl | ⟨field, hfield, hl⟩ | rfl
    · exact isLine_declarationLine typescript hd.name
    · exact isLine_of_mem_fieldLines typescript hindent hd hfield l hl
    · exact hend
  | java =>
    refine Neat.intercalate (fun b hb => ?_) (by simp)
    simp only [List.mem_cons, List.mem_append, List.mem_map, List.not_mem_nil, or_false] at hb
    rcases hb with rfl | ⟨field, hfield, rfl⟩ | rfl
    · refine Neat.of_isLine (by simp) fun l hl => ?_
      rcases List.mem_append.mp hl with hl | hl
      · obtain ⟨tag, ha, rfl⟩ := List.mem_map.mp hl
        exact hs.isLine_annotationLine ha
      · rw [List.mem_singleton.mp hl]
        exact isLine_declarationLine java hd.name
    · exact Neat.of_isLine (by simp [fieldLines]) (isLine_of_mem_fieldLines java hindent hd hfield)
    · exact Neat.of_isLine (by simp) fun l hl => List.mem_singleton.mp hl ▸ hend

end Target

end SampleTypes
