import SampleTypes.Proofs.Generation.Outcome
import SampleTypes.Proofs.Inference.Outline

/-!
# What reaches the output

> **Of a sample nothing but its outline reaches the output.**

Two samples of one outline give the same schema, so there is nothing left in which the code of the
one could differ from that of the other. If they differ in which numbers are whole, their schemas do
as well; but an interface spells all numbers alike, so its text is the same all the same.
-/

set_option autoImplicit false

namespace SampleTypes

variable {strict : Bool}

/-! ## The code of alike declarations -/

theorem FieldType.Alike.typeText_eq {type type' : FieldType} (h : type.Alike strict type') :
    Target.typescript.typeText type = Target.typescript.typeText type' := by
  induction h with
  | same type => rfl
  | number _ => rfl
  | list _ ih => exact congrArg Target.typescript.listText ih

namespace Declaration.Alike

variable {d d' : Declaration}

/-- An interface shows nothing in which alike declarations differ. -/
theorem interfaceCode_eq (h : d.Alike strict d') (settings : Settings) (imports : List Text) :
    Target.interfaceCode settings d imports = Target.interfaceCode settings d' imports := by
  have hfields : (d.fields.map fun field => Json.obj [("name", .str field.name),
        ("type", .str (Target.typescript.typeText field.type))]) =
      d'.fields.map fun field => .obj [("name", .str field.name),
        ("type", .str (Target.typescript.typeText field.type))] := by
    refine map_eq_map_of_forall₂ h.fields fun field field' hfield => ?_
    rw [hfield.name, hfield.type.typeText_eq]
  have hcontext : ∀ indent, Target.interfaceContext settings indent d imports =
      Target.interfaceContext settings indent d' imports := by
    intro indent
    rw [Target.interfaceContext, Target.interfaceContext, h.name, hfields]
  simp only [Target.interfaceCode, hcontext]

theorem fileOf_eq (h : d.Alike strict d') (settings : Settings) :
    Generator.fileOf ⟨.typescript, settings⟩ d = Generator.fileOf ⟨.typescript, settings⟩ d' := by
  have himports : Target.interfaceImports d = Target.interfaceImports d' := by
    rw [Target.interfaceImports, Target.interfaceImports, h.name, h.dependencies]
  have hfile : Target.typescript.file settings d = Target.typescript.file settings d' := by
    rw [Target.file, Target.file, himports, h.interfaceCode_eq]
  have hname : Target.typescript.fileName d = Target.typescript.fileName d' :=
    congrArg (· ++ Target.typescript.fileEnding) h.name
  rw [Generator.fileOf, Generator.fileOf, hfile, hname]

end Declaration.Alike

/-! ## One schema -/

theorem Json.SameOutline.ofValue_eq {value value' : Json} (h : value.SameOutline true value')
    (style : NamingStyle) (rootName : Text) :
    Schema.ofValue style rootName value = Schema.ofValue style rootName value' := by
  obtain ⟨hroot, hfound⟩ := inferRoot_alike style h rootName {}
  have hsame : inferRoot style value rootName {} = inferRoot style value' rootName {} :=
    Prod.ext hroot hfound.eq
  rw [Schema.ofValue, Schema.ofValue, hsame]

/-- Emission looks at names only, so it keeps alike declarations side by side. -/
theorem Json.SameOutline.alike_declarations {value value' : Json}
    (h : value.SameOutline strict value') (style : NamingStyle) (rootName : Text) :
    List.Forall₂ (Declaration.Alike strict) (Schema.ofValue style rootName value).declarations
      (Schema.ofValue style rootName value').declarations :=
  have hfound := (inferRoot_alike style h rootName {}).2
  (Shapes.emission_matches isRenaming_alike hfound.declarations).1

namespace Generator

variable {naming : RootNaming} {text text' : List Char} {value value' : Json}

theorem schema_eq_of_outline (generator : Generator) (naming : RootNaming) (h : value.SameOutline true value')
    (hread : readSample text = .ok value) (hread' : readSample text' = .ok value') :
    generator.schema naming text = generator.schema naming text' := by
  cases hroot : naming.rootName.isBlank with
  | true => rw [generator.schema_of_blank text hroot, generator.schema_of_blank text' hroot]
  | false =>
    rw [generator.schema_of_readable hroot hread, generator.schema_of_readable hroot hread',
      h.ofValue_eq]

theorem documentOf_eq_of_alike (settings : Settings) {schema schema' : Schema}
    (h : List.Forall₂ (Declaration.Alike strict) schema.declarations schema'.declarations) :
    documentOf ⟨.typescript, settings⟩ schema = documentOf ⟨.typescript, settings⟩ schema' := by
  have hunits : schema.declarations.mapM (Target.typescript.unit settings) =
      schema'.declarations.mapM (Target.typescript.unit settings) :=
    mapM_eq_mapM_of_forall₂ h fun _ _ hd => hd.interfaceCode_eq settings []
  simp only [documentOf, Target.document, Target.header, hunits]

theorem filesOf_eq_of_alike (settings : Settings) {schema schema' : Schema}
    (h : List.Forall₂ (Declaration.Alike strict) schema.declarations schema'.declarations) :
    filesOf ⟨.typescript, settings⟩ schema = filesOf ⟨.typescript, settings⟩ schema' := by
  have hfiles : schema.declarations.mapM (fileOf ⟨.typescript, settings⟩) =
      schema'.declarations.mapM (fileOf ⟨.typescript, settings⟩) :=
    mapM_eq_mapM_of_forall₂ h fun _ _ hd => hd.fileOf_eq settings
  rw [filesOf, filesOf, hfiles]

/-- Both modes, for interfaces. -/
theorem interfaces_eq_of_outline (settings : Settings) (h : value.SameOutline strict value')
    (hread : readSample text = .ok value) (hread' : readSample text' = .ok value') :
    document ⟨.typescript, settings⟩ naming text = document ⟨.typescript, settings⟩ naming text' ∧
      fileSet ⟨.typescript, settings⟩ naming text =
        fileSet ⟨.typescript, settings⟩ naming text' := by
  cases hroot : naming.rootName.isBlank with
  | true =>
    obtain ⟨hdocument, hfiles⟩ :=
      document_of_schema_error (schema_of_blank ⟨.typescript, settings⟩ text hroot)
    obtain ⟨hdocument', hfiles'⟩ :=
      document_of_schema_error (schema_of_blank ⟨.typescript, settings⟩ text' hroot)
    rw [hdocument, hdocument', hfiles, hfiles']
    exact ⟨rfl, rfl⟩
  | false =>
    have hdeclarations := h.alike_declarations
      (style ⟨.typescript, settings⟩ naming.suffix) naming.rootName
    rw [document, document, fileSet, fileSet, schema_of_readable _ hroot hread,
      schema_of_readable _ hroot hread']
    exact ⟨documentOf_eq_of_alike settings hdeclarations, filesOf_eq_of_alike settings hdeclarations⟩

/-- **Of a sample nothing but its outline reaches the output.** Two samples that differ in strings,
in truth values, in numbers as whole as each other and in what arrays hold after their first
elements add the same to whatever was found before, and give the same documents and files. If whole
numbers differ from others, this is still so of interfaces. -/
theorem outline_determines (value value' : Json) :
    (value.SameOutline true value' →
      (∀ (style : NamingStyle) (rootName : Text) (findings : Findings),
        inferRoot style value rootName findings = inferRoot style value' rootName findings) ∧
      ∀ (generator : Generator) (naming : RootNaming) (text text' : List Char),
        readSample text = .ok value → readSample text' = .ok value' →
        generator.document naming text = generator.document naming text' ∧
        generator.fileSet naming text = generator.fileSet naming text') ∧
    (value.SameOutline false value' →
      ∀ (settings : Settings) (naming : RootNaming) (text text' : List Char),
        readSample text = .ok value → readSample text' = .ok value' →
        document ⟨.typescript, settings⟩ naming text =
          document ⟨.typescript, settings⟩ naming text' ∧
        fileSet ⟨.typescript, settings⟩ naming text =
          fileSet ⟨.typescript, settings⟩ naming text') := by
  constructor
  · intro h
    constructor
    · intro style rootName findings
      obtain ⟨hroot, hfound⟩ := inferRoot_alike style h rootName findings
      exact Prod.ext hroot hfound.eq
    · intro generator naming text text' hread hread'
      have hschema := generator.schema_eq_of_outline naming h hread hread'
      rw [document, document, fileSet, fileSet, hschema]
      exact ⟨rfl, rfl⟩
  · intro h settings naming text text' hread hread'
    exact interfaces_eq_of_outline settings h hread hread'

/-- The sample of an order with another number in it, and with more in its list. -/
def otherOrderSample : List Char := "\x7b\"lines\":[\x7b\"id\":25\x7d,\"none\",[]]\x7d".toList

/-- The value in it. -/
def otherOrderValue : Json := .obj [("lines", .arr [.obj [("id", .int 25)], .str "none", .arr []])]

theorem readSample_otherOrder : readSample otherOrderSample = .ok otherOrderValue := by cbv

theorem outline_determines_order :
    (document ⟨.java, {}⟩ ⟨"Order", []⟩ orderSample =
        document ⟨.java, {}⟩ ⟨"Order", []⟩ otherOrderSample ∧
      fileSet ⟨.java, {}⟩ ⟨"Order", []⟩ orderSample =
        fileSet ⟨.java, {}⟩ ⟨"Order", []⟩ otherOrderSample) ∧
    document ⟨.typescript, {}⟩ ⟨"Prices", []⟩ "[2]".toList =
        document ⟨.typescript, {}⟩ ⟨"Prices", []⟩ "[1.5]".toList ∧
      fileSet ⟨.typescript, {}⟩ ⟨"Prices", []⟩ "[2]".toList =
        fileSet ⟨.typescript, {}⟩ ⟨"Prices", []⟩ "[1.5]".toList := by
  have horder : orderValue.SameOutline true otherOrderValue :=
    .object (.cons _ (.first _ _ (.object (.cons _ (.number (.int 1) (.int 25) fun _ => Iff.rfl)
      .nil))) .nil)
  have hprices : (Json.arr [.int 2]).SameOutline false
      (.arr [.float (floatOfDecimal false 15 (-1))]) :=
    .first _ _ (.number (.int 2) (.float _) (by simp))
  constructor
  · exact ((outline_determines orderValue otherOrderValue).1 horder).2 ⟨.java, {}⟩ ⟨"Order", []⟩
      orderSample otherOrderSample readSample_order readSample_otherOrder
  · exact (outline_determines (.arr [.int 2]) (.arr [.float (floatOfDecimal false 15 (-1))])).2
      hprices {} ⟨"Prices", []⟩ "[2]".toList "[1.5]".toList rfl rfl

end Generator

end SampleTypes
