import Mathlib
import SampleTypes.Proofs.Schema.Named

/-!
# What generation comes to

A document and a set of files are made from one schema, so they fail together: for a blank name of
the root, for a text that cannot be read, and, after that, for **nothing but an indentation that
cannot be made up**. Otherwise they hold the same code of the same declarations, of which the final
layout leaves every code point as it is.
-/

set_option autoImplicit false

namespace SampleTypes

open CodePoint (lineFeed)

/-- The declarations from which a generator makes code. -/
def Generator.declarations (generator : Generator) (naming : RootNaming) (value : Json) :
    List Declaration :=
  (Schema.ofValue (generator.style naming.suffix) naming.rootName value).declarations

namespace Generator

variable {generator : Generator} {naming : RootNaming} {text : List Char} {value : Json}

/-! ## Before there is a schema -/

theorem schema_of_blank (generator : Generator) (text : List Char)
    (h : naming.rootName.isBlank = true) :
    generator.schema naming text = .error (.sample .blankRootName) := by
  rw [schema, Schema.infer, if_pos h]

theorem schema_of_unreadable (generator : Generator) (hroot : naming.rootName.isBlank = false)
    {error : SampleError} (hread : readSample text = .error error) :
    generator.schema naming text = .error (.sample error) := by
  rw [schema, Schema.infer, if_neg (by simp [hroot]), hread]
  rfl

theorem schema_of_readable (generator : Generator) (hroot : naming.rootName.isBlank = false)
    (hread : readSample text = .ok value) : generator.schema naming text =
      .ok (Schema.ofValue (generator.style naming.suffix) naming.rootName value) := by
  rw [schema, Schema.infer, if_neg (by simp [hroot]), hread]
  rfl

/-- A schema is made from a sample that can be read, under a name that is not blank. -/
theorem exists_value_of_schema {schema : Schema} (h : generator.schema naming text = .ok schema) :
    naming.rootName.isBlank = false ∧ ∃ value, readSample text = .ok value ∧
      schema = Schema.ofValue (generator.style naming.suffix) naming.rootName value := by
  cases hroot : naming.rootName.isBlank with
  | true =>
    rw [generator.schema_of_blank text hroot] at h
    cases h
  | false =>
    refine ⟨rfl, ?_⟩
    cases hread : readSample text with
    | error error =>
      rw [generator.schema_of_unreadable hroot hread] at h
      cases h
    | ok value =>
      rw [generator.schema_of_readable hroot hread] at h
      cases h
      exact ⟨value, rfl, rfl⟩

/-- Without a schema there is neither a document nor a set of files. -/
theorem document_of_schema_error {error : GenerationError}
    (h : generator.schema naming text = .error error) :
    generator.document naming text = .error error ∧ generator.fileSet naming text = .error error := by
  rw [document, fileSet, h]
  exact ⟨rfl, rfl⟩

/-! ## With a schema -/

section

variable (hs : generator.settings.Spaceless) (hroot : naming.rootName.isBlank = false)
  (hread : readSample text = .ok value)

include hs hroot hread

theorem document_eq : generator.document naming text =
    match generator.settings.indent with
    | .ok indent => .ok (Text.ofLines (generator.target.documentLines generator.settings indent
        (generator.declarations naming value)))
    | .error fault => .error (.code (.indent fault)) := by
  rw [document, generator.schema_of_readable hroot hread]
  show generator.documentOf _ = _
  rw [documentOf, generator.target.document_eq hs (declarations_ofValue_ne_nil _ _ value)
    (clean_ofValue generator naming.suffix naming.rootName value)]
  cases generator.settings.indent <;> rfl

theorem fileSet_eq : generator.fileSet naming text =
    match generator.settings.indent with
    | .ok indent => .ok ((generator.declarations naming value).map fun d =>
        ⟨generator.target.fileName d,
          Text.ofLines (generator.target.fileLines generator.settings indent d)⟩)
    | .error fault => .error (.code (.indent fault)) := by
  have hclean := clean_ofValue generator naming.suffix naming.rootName value
  have hfile : ∀ d ∈ generator.declarations naming value, generator.fileOf d =
      match generator.settings.indent with
      | .ok indent => .ok ⟨generator.target.fileName d,
          Text.ofLines (generator.target.fileLines generator.settings indent d)⟩
      | .error fault => .error (.indent fault) := by
    intro d hd
    rw [fileOf, generator.target.file_eq hs (hclean d hd)]
    cases generator.settings.indent <;> rfl
  have hfiles : generator.fileSet naming text =
      ((generator.declarations naming value).mapM generator.fileOf).mapError .code := by
    rw [fileSet, generator.schema_of_readable hroot hread]
    show generator.filesOf _ = _
    rw [filesOf, ← declarations]
    cases (generator.declarations naming value).mapM generator.fileOf <;> rfl
  rw [hfiles]
  cases hindent : generator.settings.indent with
  | ok indent =>
    simp only [hindent] at hfile
    rw [Template.mapM_eq_ok hfile]
    rfl
  | error fault =>
    simp only [hindent] at hfile
    have hne : generator.declarations naming value ≠ [] := declarations_ofValue_ne_nil _ _ value
    obtain ⟨d, ds, hds⟩ := List.exists_cons_of_ne_nil hne
    rw [hds, List.mapM_cons, hfile d (hds ▸ List.mem_cons_self)]
    rfl

/-- A document holds the lines of its declarations. -/
theorem exists_lines_of_document {code : Text} (hcode : generator.document naming text = .ok code) :
    ∃ indent, generator.settings.indent = .ok indent ∧
      Text.Neat (generator.target.documentLines generator.settings indent
        (generator.declarations naming value)) ∧
      code = Text.ofLines (generator.target.documentLines generator.settings indent
        (generator.declarations naming value)) := by
  have hdocument := document_eq hs hroot hread
  rw [hcode] at hdocument
  cases hindent : generator.settings.indent with
  | error fault =>
    rw [hindent] at hdocument
    exact absurd hdocument (by simp)
  | ok indent =>
    rw [hindent] at hdocument
    exact ⟨indent, rfl, generator.target.neat_documentLines hs hindent
      (declarations_ofValue_ne_nil _ _ value)
      (clean_ofValue generator naming.suffix naming.rootName value), Except.ok.inj hdocument⟩

theorem exists_document_iff : (∃ code, generator.document naming text = .ok code) ↔
    ∃ indent, generator.settings.indent = .ok indent := by
  rw [document_eq hs hroot hread]
  cases generator.settings.indent with
  | ok indent => exact ⟨fun _ => ⟨indent, rfl⟩, fun _ => ⟨_, rfl⟩⟩
  | error fault => simp

end

/-! ## What it fails for -/

/-- The line that opens a declaration is in the document once. -/
theorem count_declarationLine (generator : Generator) (naming : RootNaming) (value : Json)
    (indent : Text) {d : Declaration} (hd : d ∈ generator.declarations naming value) :
    (generator.target.documentLines generator.settings indent
        (generator.declarations naming value)).count
      (generator.target.declarationLine generator.settings d.name) = 1 := by
  have hdistinct : ((generator.declarations naming value).map (·.name)).Nodup :=
    (connected_ofValue (generator.style naming.suffix) naming.rootName value).distinct
  have hlines : ((generator.declarations naming value).map fun d =>
      generator.target.declarationLine generator.settings d.name).Nodup := by
    have hcompose := hdistinct.map (f := generator.target.declarationLine generator.settings)
      fun _ _ h => Target.declarationLine_inj h
    rwa [List.map_map] at hcompose
  have hopens := Target.opensDeclaration_declarationLine generator.target generator.settings d.name
  rw [← List.count_filter hopens, Target.filter_documentLines]
  exact List.count_eq_one_of_mem hlines (List.mem_map_of_mem hd)

/-- **Generation fails for its input, or for want of an indentation.** -/
theorem outcome (generator : Generator) (naming : RootNaming) (text : List Char)
    (hs : generator.settings.Spaceless) :
    (naming.rootName.isBlank = true →
      generator.document naming text = .error (.sample .blankRootName) ∧
      generator.fileSet naming text = .error (.sample .blankRootName)) ∧
    (naming.rootName.isBlank = false → ∀ error, readSample text = .error error →
      generator.document naming text = .error (.sample error) ∧
      generator.fileSet naming text = .error (.sample error)) ∧
    (naming.rootName.isBlank = false → ∀ value, readSample text = .ok value →
      (∃ root ∈ generator.declarations naming value,
        (Schema.ofValue (generator.style naming.suffix) naming.rootName value).root? = some root) ∧
      (∀ hint fromKey, generator.target.convention.decorated naming.suffix hint fromKey ≠ []) ∧
      match generator.settings.indent with
      | .error fault =>
        generator.document naming text = .error (.code (.indent fault)) ∧
        generator.fileSet naming text = .error (.code (.indent fault))
      | .ok _ =>
        (∃ files, generator.fileSet naming text = .ok files) ∧
        ∃ code, generator.document naming text = .ok code ∧ code ≠ [] ∧
          ∀ d ∈ generator.declarations naming value,
            code.lines.count (generator.target.declarationLine generator.settings d.name) = 1) := by
  refine ⟨fun hroot => document_of_schema_error (generator.schema_of_blank text hroot),
    fun hroot error hread => document_of_schema_error (generator.schema_of_unreadable hroot hread),
    fun hroot value hread => ⟨?_, fun hint fromKey => ?_, ?_⟩⟩
  · exact exists_root_ofValue (generator.style naming.suffix) naming.rootName value
  · exact generator.target.convention.decorated_ne_nil naming.suffix hint fromKey
  · have hdocument := document_eq hs hroot hread
    have hfiles := fileSet_eq hs hroot hread
    cases hindent : generator.settings.indent with
    | error fault =>
      rw [hindent] at hdocument hfiles
      exact ⟨hdocument, hfiles⟩
    | ok indent =>
      rw [hindent] at hdocument hfiles
      have hneat : Text.Neat (generator.target.documentLines generator.settings indent
          (generator.declarations naming value)) :=
        generator.target.neat_documentLines hs hindent (declarations_ofValue_ne_nil _ _ value)
          (clean_ofValue generator naming.suffix naming.rootName value)
      refine ⟨⟨_, hfiles⟩, _, hdocument, hneat.ofLines_ne_nil, fun d hd => ?_⟩
      rw [hneat.lines_ofLines]
      exact generator.count_declarationLine naming value indent hd

/-- A sample with a list of objects. -/
def orderSample : List Char := "\x7b\"lines\":[\x7b\"id\":1\x7d]\x7d".toList

/-- The value in it. -/
def orderValue : Json := .obj [("lines", .arr [.obj [("id", .int 1)]])]

theorem readSample_order : readSample orderSample = .ok orderValue := by cbv

theorem outcome_order :
    (∃ files, fileSet ⟨.java, {}⟩ ⟨"Order", []⟩ orderSample = .ok files) ∧
    ∃ code, document ⟨.java, {}⟩ ⟨"Order", []⟩ orderSample = .ok code ∧ code ≠ [] ∧
      ∀ d ∈ declarations ⟨.java, {}⟩ ⟨"Order", []⟩ orderValue,
        code.lines.count (Target.java.declarationLine {} d.name) = 1 :=
  ((outcome ⟨.java, {}⟩ ⟨"Order", []⟩ orderSample Settings.spaceless_default).2.2 (by decide)
    orderValue readSample_order).2.2

/-- An indentation of so many spaces that no text has cannot be made up, also where nothing is
indented. -/
theorem document_of_endless_indent :
    Settings.Spaceless { indentSize := 0x8000000000000000 } ∧
    Text.isBlank "Root" = false ∧ readSample "{}".toList = .ok (.obj []) ∧
    document ⟨.typescript, { indentSize := 0x8000000000000000 }⟩ ⟨"Root", []⟩ "{}".toList =
      .error (.code (.indent .sizeBeyondLimit)) :=
  ⟨⟨Settings.spaceless_default.packageName, Settings.spaceless_default.jsonInclude⟩, by decide, rfl, rfl⟩

/-! ## One schema, two modes -/

/-- **Both modes give the same code of the same declarations**, and the final layout leaves it as it
is. A document has its header before that code, if the language has one, and a file what it imports;
of the imports of classes, only that of lists depends on the declarations. -/
theorem document_agrees (generator : Generator) (naming : RootNaming) (text : List Char)
    {value : Json} (hs : generator.settings.Spaceless) (hroot : naming.rootName.isBlank = false)
    (hread : readSample text = .ok value) :
    (∀ error, (generator.declarations naming value).mapM
        (generator.target.unit generator.settings) = .error error →
      generator.document naming text = .error (.code error) ∧
      generator.fileSet naming text = .error (.code error)) ∧
    ∀ units, (generator.declarations naming value).mapM
        (generator.target.unit generator.settings) = .ok units →
      (∀ unit ∈ units, unit.tidy = unit) ∧
      (∀ ds, generator.target.header generator.settings ds =
        .ok ((generator.target.openingBlocks generator.settings ds).flatMap
          fun block => Text.ofLines block ++ [lineFeed])) ∧
      generator.document naming text = .ok (Text.join Target.unitSeparator
        ((generator.target.openingBlocks generator.settings
          (generator.declarations naming value)).map Text.ofLines ++ units)) ∧
      (∃ files, generator.fileSet naming text = .ok files ∧
        files.length = (generator.declarations naming value).length ∧
        List.Forall₂ (fun (written : Declaration × Text) (file : GeneratedFile) =>
            file.name = generator.target.fileName written.1 ∧
            file.content = Text.join Target.unitSeparator
              ((generator.target.prefixBlocks generator.settings written.1).map Text.ofLines ++
                [written.2]))
          ((generator.declarations naming value).zip units) files) ∧
      (Target.listImport ∈ Target.classImports generator.settings
          (generator.declarations naming value) ↔
        ∃ d ∈ generator.declarations naming value,
          Target.listImport ∈ Target.classImports generator.settings [d]) ∧
      ∀ d ∈ generator.declarations naming value,
        (Target.classImports generator.settings (generator.declarations naming value)).filter
            (· ≠ Target.listImport) =
          (Target.classImports generator.settings [d]).filter (· ≠ Target.listImport) := by
  have hdocument := document_eq hs hroot hread
  have hfiles := fileSet_eq hs hroot hread
  have hclean : ∀ d ∈ generator.declarations naming value, d.Clean :=
    clean_ofValue generator naming.suffix naming.rootName value
  have hne : generator.declarations naming value ≠ [] := declarations_ofValue_ne_nil _ _ value
  rw [generator.target.mapM_unit_eq hne]
  cases hindent : generator.settings.indent with
  | error fault =>
    rw [hindent] at hdocument hfiles
    refine ⟨fun error herror => ?_, fun units hunits => absurd hunits (by simp)⟩
    rw [← Except.error.inj herror]
    exact ⟨hdocument, hfiles⟩
  | ok indent =>
    rw [hindent] at hdocument hfiles
    dsimp only at hdocument hfiles
    refine ⟨fun error herror => absurd herror (by simp), fun units hunits => ?_⟩
    obtain rfl := Except.ok.inj hunits
    refine ⟨fun unit hunit => ?_, generator.target.header_eq generator.settings, ?_,
      ⟨_, hfiles, List.length_map _, ?_⟩, ?_, fun d _ => ?_⟩
    · obtain ⟨d, hd, rfl⟩ := List.mem_map.mp hunit
      exact (generator.target.neat_unitLines hs hindent (hclean d hd)).tidy_ofLines
    · rw [hdocument, generator.target.ofLines_documentLines hs hindent hclean]
    · rw [← List.map_prod_left_eq_zip, List.forall₂_map_left_iff, List.forall₂_map_right_iff,
        List.forall₂_same]
      intro d hd
      exact ⟨rfl, generator.target.ofLines_fileLines hs hindent (hclean d hd)⟩
    · simp [Target.listImport_mem_classImports]
    · rw [Target.filter_classImports, Target.filter_classImports]

theorem document_agrees_order :
    ∃ units, (declarations ⟨.java, {}⟩ ⟨"Order", []⟩ orderValue).mapM (Target.java.unit {}) =
        .ok units ∧
      document ⟨.java, {}⟩ ⟨"Order", []⟩ orderSample = .ok (Text.join Target.unitSeparator
        ((Target.java.openingBlocks {} (declarations ⟨.java, {}⟩ ⟨"Order", []⟩ orderValue)).map
          Text.ofLines ++ units)) := by
  have hunits : (declarations ⟨.java, {}⟩ ⟨"Order", []⟩ orderValue).mapM (Target.java.unit {}) =
      .ok ((declarations ⟨.java, {}⟩ ⟨"Order", []⟩ orderValue).map fun d =>
        Text.ofLines (Target.java.unitLines {} "  " d)) :=
    Target.java.mapM_unit_eq (declarations_ofValue_ne_nil _ _ orderValue)
  exact ⟨_, hunits, ((document_agrees ⟨.java, {}⟩ ⟨"Order", []⟩ orderSample Settings.spaceless_default
    (by decide) readSample_order).2 _ hunits).2.2.1⟩

end Generator

end SampleTypes
