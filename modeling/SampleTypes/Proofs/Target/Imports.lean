import SampleTypes.Proofs.Target.Reading

/-!
# What a file imports

> **The lines of a file that import something are those of its imports**
> (`Target.filter_isImportLine_file`).

Nothing else in a file begins like an import, not even the field of an interface that is not indented
and has the name `import`. What is imported is known from the fields: an interface imports what they
refer to, in whatever depth of lists, and a class imports lists if one of them is spelled with one.
-/

set_option autoImplicit false

namespace SampleTypes

open Text (IsName Neat)

/-! ## What fields refer to -/

/-- The names to which the fields of a declaration refer, each at its first reference, without the
declaration's own. -/
def Declaration.others (d : Declaration) : List Text :=
  (d.fields.filterMap (·.type.reference?)).eraseDups.filter (· != d.name)

namespace Declaration

variable {d : Declaration}

theorem mem_others_iff {name : Text} : name ∈ d.others ↔
    name ≠ d.name ∧ ∃ field ∈ d.fields, ∃ depth, field.type = .nested depth (.ref name) := by
  simp only [others, List.mem_filter, List.mem_eraseDups, List.mem_filterMap, bne_iff_ne,
    FieldType.reference?_eq_some_iff, and_comm]

theorem Filled.interfaceImports_eq (h : d.Filled) : Target.interfaceImports d = d.others := by
  rw [Target.interfaceImports, h.dependencies_eq, others]

theorem Filled.nodup_others (h : d.Filled) : d.others.Nodup := by
  rw [← h.interfaceImports_eq]
  exact h.nodup_dependencies.filter _

end Declaration

namespace Target

/-! ## Lists in classes -/

/-- How the spelling of a list begins. -/
def listMark : Text := "List<"

/-- Only a list is spelled with one: no name holds the mark. -/
theorem listMark_isInfix_iff {type : FieldType}
    (h : ∀ name, type.reference? = some name → IsName name) :
    listMark <:+: java.typeText type ↔ type.isList = true := by
  have hother : ∀ t : Text, .scalar '<' ∉ t → ¬ listMark <:+: t := by
    intro t ht hwithin
    exact ht (hwithin.subset (by decide))
  cases type with
  | list element =>
    refine iff_of_true ⟨[], java.typeText element ++ (">" : Text), ?_⟩ rfl
    rw [List.nil_append, ← List.append_assoc]
    rfl
  | ref name => exact iff_of_false (hother name ((h name rfl).notMem (by decide))) Bool.false_ne_true
  | string | boolean | any => exact iff_of_false (hother _ (by decide)) (by decide)
  | number integral => cases integral <;> exact iff_of_false (hother _ (by decide)) (by decide)

theorem usesLists_iff {d : Declaration} (hd : d.Clean) : d.usesLists = true ↔
    ∃ field ∈ d.fields, listMark <:+: java.typeText field.type := by
  rw [Declaration.usesLists, List.any_eq_true]
  constructor
  · rintro ⟨field, hfield, hlist⟩
    exact ⟨field, hfield, (listMark_isInfix_iff (hd.reference field hfield)).mpr hlist⟩
  · rintro ⟨field, hfield, hmark⟩
    exact ⟨field, hfield, (listMark_isInfix_iff (hd.reference field hfield)).mp hmark⟩

/-! ## The lines of a file -/

/-- Whether a line begins as that of an import does. -/
def isImportLine (l : Text) : Bool := List.isPrefixOf ("import " : Text) l

/-- The lines of the imports in the file of a declaration. -/
def importLines (target : Target) (settings : Settings) (d : Declaration) : List Text :=
  match target with
  | typescript => (interfaceImports d).map interfaceImportLine
  | java => (classImports settings [d]).map classImportLine

variable {settings : Settings} {indent : Text}

theorem isImportLine_indented (hindent : settings.indent = .ok indent) {l : Text}
    (hl : isImportLine l = false) : isImportLine (indent ++ l) = false := by
  have hmem := mem_indent hindent
  cases indent with
  | nil => exact hl
  | cons c indent => rcases hmem c List.mem_cons_self with rfl | rfl <;> rfl

/-- A field of the name `import` is told from an import by its colon. -/
theorem isImportLine_named {name : Text} (h : IsName name) (rest : Text) :
    isImportLine ((name ++ (":" : Text)) ++ .scalar ' ' :: rest) = false := by
  have hspace : .scalar ' ' ∉ name ++ (":" : Text) := by
    rw [List.mem_append, not_or]
    exact ⟨h.notMem (by decide), by decide⟩
  by_contra himport
  obtain ⟨after, hline⟩ := List.isPrefixOf_iff_prefix.mp (Bool.of_not_eq_false himport)
  -- The first word of the one line is the name with its colon, that of the other one is not.
  have hword : Text.cut (("import" : Text) ++ .scalar ' ' :: after) = (("import" : Text), after) :=
    Text.cut_append (by decide)
  have hnamed : Text.cut ((name ++ (":" : Text)) ++ .scalar ' ' :: rest) =
      (name ++ (":" : Text), rest) := Text.cut_append hspace
  rw [← hline] at hnamed
  have hlast : (name ++ (":" : Text)).getLast? = ("import" : Text).getLast? :=
    congrArg (fun words => words.1.getLast?) (hnamed.symm.trans hword)
  rw [List.getLast?_append_of_ne_nil _ (by decide)] at hlast
  exact absurd hlast (by decide)

theorem isImportLine_fieldLines (target : Target) (hindent : settings.indent = .ok indent)
    {field : Field} (hname : IsName field.name) :
    ∀ l ∈ target.fieldLines indent field, isImportLine l = false := by
  intro l hl
  cases target with
  | typescript =>
    rw [List.mem_singleton.mp hl]
    simp only [List.append_assoc]
    refine isImportLine_indented hindent ?_
    rw [← isImportLine_named hname (typescript.typeText field.type ++ (";" : Text)),
      List.append_assoc]
    rfl
  | java =>
    rcases List.mem_pair.mp hl with rfl | rfl
    · simp only [List.append_assoc]
      exact isImportLine_indented hindent rfl
    · simp only [List.append_assoc]
      exact isImportLine_indented hindent rfl

/-- The code of a declaration imports nothing. -/
theorem filter_isImportLine_unitLines (target : Target) (hindent : settings.indent = .ok indent)
    {d : Declaration} (hd : d.Clean) :
    (target.unitLines settings indent d).filter isImportLine = [] := by
  have hopening : isImportLine (target.declarationLine settings d.name) = false := by
    cases target with
    | typescript =>
      rw [declarationLine]
      cases settings.exportDeclarations <;> rfl
    | java => rfl
  have hfields : ∀ field ∈ d.fields, (target.fieldLines indent field).filter isImportLine = [] := by
    intro field hfield
    refine List.filter_eq_nil_iff.mpr fun l hl => ?_
    rw [isImportLine_fieldLines target hindent (hd.field field hfield) l hl]
    simp
  rw [target.filter_unitLines_of rfl rfl fun _ _ => rfl,
    List.filter_cons_of_neg (by simp [hopening]), List.flatMap_eq_nil_iff.mpr hfields]
  rfl

theorem filter_isImportLine_fileLines (target : Target) (hindent : settings.indent = .ok indent)
    {d : Declaration} (hd : d.Clean) :
    (target.fileLines settings indent d).filter isImportLine = target.importLines settings d := by
  have hall : ∀ (line : Text → Text), (∀ name, isImportLine (line name) = true) →
      ∀ names : List Text, (names.map line).filter isImportLine = names.map line := by
    intro line hline names
    refine List.filter_eq_self.mpr fun l hl => ?_
    obtain ⟨name, _, rfl⟩ := List.mem_map.mp hl
    exact hline name
  have hprefix : (target.prefixBlocks settings d).flatMap (List.filter isImportLine) =
      target.importLines settings d := by
    cases target with
    | typescript =>
      rw [prefixBlocks, importLines]
      split
      · rename_i hnone
        rw [hnone]
        rfl
      · rw [List.flatMap_singleton]
        exact hall interfaceImportLine (fun _ => rfl) _
    | java =>
      rw [prefixBlocks, openingBlocks, List.flatMap_singleton, filter_headerLines_of rfl rfl]
      exact hall classImportLine (fun _ => rfl) _
  rw [fileLines, Text.filter_intercalate rfl, List.flatMap_append, hprefix, List.flatMap_singleton,
    filter_isImportLine_unitLines target hindent hd, List.append_nil]

theorem neat_fileLines (target : Target) (hs : settings.Unbroken)
    (hindent : settings.indent = .ok indent) {d : Declaration} (hd : d.Clean) :
    Neat (target.fileLines settings indent d) := by
  refine Neat.intercalate (fun b hb => ?_) (by simp)
  rcases List.mem_append.mp hb with hb | hb
  · exact neat_of_mem_prefixBlocks hs hd hb
  · rw [List.mem_singleton.mp hb]
    exact neat_unitLines target hs hindent hd

/-- A file holds the lines of its declaration. -/
theorem exists_lines_of_file (target : Target) (hs : settings.Unbroken) {d : Declaration}
    (hd : d.Clean) {content : Text} (hfile : target.file settings d = .ok content) :
    ∃ indent, settings.indent = .ok indent ∧
      content.lines = target.fileLines settings indent d := by
  rw [file_eq target hs hd] at hfile
  cases hindent : settings.indent with
  | error fault =>
    rw [hindent] at hfile
    exact absurd hfile (by simp)
  | ok indent =>
    rw [hindent] at hfile
    refine ⟨indent, rfl, ?_⟩
    rw [← Except.ok.inj hfile, (neat_fileLines target hs hindent hd).lines_ofLines]

/-- No text of the settings is written into an interface, so nothing is asked of them. -/
theorem exists_lines_of_interface {d : Declaration} (hd : d.Clean) {content : Text}
    (hfile : typescript.file settings d = .ok content) :
    ∃ indent, settings.indent = .ok indent ∧
      content.lines = typescript.fileLines settings indent d := by
  have hs : Settings.Unbroken { settings with packageName := [], jsonInclude := none } :=
    ⟨by simp, by simp⟩
  have hsame : typescript.file { settings with packageName := [], jsonInclude := none } d =
      typescript.file settings d := rfl
  exact exists_lines_of_file typescript hs hd (hsame.trans hfile)

/-- **The lines of a file that import something are those of its imports.** -/
theorem filter_isImportLine_file (target : Target) (hs : settings.Unbroken) {d : Declaration}
    (hd : d.Clean) {content : Text} (hfile : target.file settings d = .ok content) :
    content.lines.filter isImportLine = target.importLines settings d := by
  obtain ⟨indent, hindent, hlines⟩ := exists_lines_of_file target hs hd hfile
  rw [hlines, filter_isImportLine_fileLines target hindent hd]

theorem filter_isImportLine_interface {d : Declaration} (hd : d.Clean) {content : Text}
    (hfile : typescript.file settings d = .ok content) :
    content.lines.filter isImportLine = d.others.map interfaceImportLine := by
  obtain ⟨indent, hindent, hlines⟩ := exists_lines_of_interface hd hfile
  rw [hlines, filter_isImportLine_fileLines typescript hindent hd, importLines,
    hd.filled.interfaceImports_eq]

/-- **A class imports lists iff one of its fields is spelled with one.** -/
theorem listImport_mem_class (hs : settings.Unbroken) {d : Declaration} (hd : d.Clean)
    {content : Text} (hfile : java.file settings d = .ok content) :
    classImportLine listImport ∈ content.lines ↔
      ∃ field ∈ d.fields, listMark <:+: java.typeText field.type := by
  have hinj : ∀ {statement statement'}, classImportLine statement = classImportLine statement' →
      statement = statement' := fun h => List.append_cancel_left (List.append_cancel_right h)
  have hline : classImportLine listImport ∈ content.lines ↔
      classImportLine listImport ∈ content.lines.filter isImportLine := by
    rw [List.mem_filter]
    exact ⟨fun h => ⟨h, rfl⟩, fun h => h.1⟩
  rw [hline, filter_isImportLine_file java hs hd hfile, ← usesLists_iff hd]
  constructor
  · intro hmem
    obtain ⟨statement, hstatement, heq⟩ := List.mem_map.mp hmem
    obtain ⟨d', hd', huses⟩ := listImport_mem_classImports.mp (hinj heq ▸ hstatement)
    rwa [List.mem_singleton.mp hd'] at huses
  · intro huses
    exact List.mem_map_of_mem (listImport_mem_classImports.mpr ⟨d, List.mem_singleton_self d, huses⟩)

end Target

end SampleTypes
