import SampleTypes.Proofs.Generation.FileNames
import SampleTypes.Proofs.Target.Imports

/-!
# Sets of files on their own

> **A set of interfaces has every file that one of its files imports.**

An interface imports each other declaration that its fields refer to, once, and never itself. As a
schema is closed, what it imports is a file of the same set. A class needs no import of another class,
which is in the same package; it imports lists if it has one.

The import of lists can be read from a file only where the settings stay on their lines: a package
with a line feed in it can bring its own lines.
-/

set_option autoImplicit false

namespace SampleTypes

namespace Generator

variable {naming : RootNaming} {text : List Char} {value : Json}

/-- What a declaration refers to is declared. -/
theorem exists_declaration_of_mem_others (generator : Generator) (naming : RootNaming) (value : Json)
    {d : Declaration} (hd : d ∈ generator.declarations naming value) {name : Text}
    (hname : name ∈ d.others) : ∃ d' ∈ generator.declarations naming value, d'.name = name := by
  have hschema := connected_ofValue (generator.style naming.suffix) naming.rootName value
  obtain ⟨_, field, hfield, htype⟩ := Declaration.mem_others_iff.mp hname
  have hdependency : name ∈ d.dependencies := (hschema.filled d hd).mem_dependencies_iff.mpr
    ⟨field, hfield, FieldType.reference?_eq_some_iff.mpr htype⟩
  have hedge : (d.name, name) ∈ edgesOf (generator.declarations naming value) :=
    mem_edgesOf.mpr ⟨d, hd, rfl, hdependency⟩
  exact List.mem_map.mp (hschema.closed _ hedge)

/-- Each declaration of a set of files with its file. -/
theorem forall₂_clean_of_fileSet {generator : Generator} (hroot : naming.rootName.isBlank = false)
    (hread : readSample text = .ok value) {files : List GeneratedFile}
    (hfiles : generator.fileSet naming text = .ok files) :
    List.Forall₂ (fun d file => (d ∈ generator.declarations naming value ∧ d.Clean) ∧
        file.name = generator.target.fileName d ∧
        generator.target.file generator.settings d = .ok file.content)
      (generator.declarations naming value) files := by
  have hclean := clean_ofValue generator naming.suffix naming.rootName value
  exact (List.forall₂_and_left _ _).mpr
    ⟨fun d hd => ⟨hd, hclean d hd⟩, (fileSet_eq_ok_iff hroot hread).mp hfiles⟩

/-- What a declaration refers to has a file in its set. -/
theorem exists_file_of_mem_others {generator : Generator} (hroot : naming.rootName.isBlank = false)
    (hread : readSample text = .ok value) {files : List GeneratedFile}
    (hfiles : generator.fileSet naming text = .ok files) {d : Declaration}
    (hd : d ∈ generator.declarations naming value) {name : Text} (hname : name ∈ d.others) :
    ∃ file ∈ files, file.name = name ++ generator.target.fileEnding := by
  obtain ⟨d', hd', rfl⟩ := generator.exists_declaration_of_mem_others naming value hd hname
  have hmem : generator.target.fileName d' ∈ files.map (·.name) := by
    rw [names_of_fileSet hroot hread hfiles]
    exact List.mem_map_of_mem hd'
  exact List.mem_map.mp hmem

/-- **A set of interfaces has every file that one of its files imports**, whatever the settings are.
The imports of a file are the other declarations that its fields refer to, in any depth of lists, each
once and in the order of the first references. **And a file with a class imports lists iff one of its
fields is spelled with one**, if no setting brings lines of its own. There is a set of files iff there
is an indentation. -/
theorem fileSet_imports (naming : RootNaming) (text : List Char) {value : Json}
    (hroot : naming.rootName.isBlank = false) (hread : readSample text = .ok value) :
    (∀ generator : Generator, (∃ files, generator.fileSet naming text = .ok files) ↔
      ∃ indent, generator.settings.indent = .ok indent) ∧
    (∀ settings files, fileSet ⟨.typescript, settings⟩ naming text = .ok files →
      List.Forall₂ (fun d file => file.name = d.name ++ (".ts" : Text) ∧
          file.content.lines.filter Target.isImportLine = d.others.map interfaceImportLine ∧
          d.others.Nodup ∧
          (∀ name, name ∈ d.others ↔ name ≠ d.name ∧
            ∃ field ∈ d.fields, ∃ depth, field.type = .nested depth (.ref name)) ∧
          ∀ name ∈ d.others, ∃ other ∈ files, other.name = name ++ (".ts" : Text))
        (declarations ⟨.typescript, settings⟩ naming value) files) ∧
    ∀ settings files, settings.Unbroken → fileSet ⟨.java, settings⟩ naming text = .ok files →
      List.Forall₂ (fun d file => file.name = d.name ++ (".java" : Text) ∧
          (classImportLine Target.listImport ∈ file.content.lines ↔
            ∃ field ∈ d.fields, Target.listMark <:+: Target.java.typeText field.type))
        (declarations ⟨.java, settings⟩ naming value) files := by
  refine ⟨fun generator => exists_fileSet_iff hroot hread, fun settings files hfiles => ?_,
    fun settings files hs hfiles => ?_⟩
  · refine (forall₂_clean_of_fileSet hroot hread hfiles).imp ?_
    rintro d file ⟨⟨hd, hclean⟩, hname, hcontent⟩
    exact ⟨hname, Target.filter_isImportLine_interface hclean hcontent, hclean.filled.nodup_others,
      fun name => Declaration.mem_others_iff,
      fun name hother => exists_file_of_mem_others hroot hread hfiles hd hother⟩
  · refine (forall₂_clean_of_fileSet hroot hread hfiles).imp ?_
    rintro d file ⟨⟨_, hclean⟩, hname, hcontent⟩
    exact ⟨hname, Target.listImport_mem_class hs hclean hcontent⟩

theorem fileSet_imports_order :
    (∃ files, fileSet ⟨.typescript, {}⟩ ⟨"Order", []⟩ orderSample = .ok files ∧
      List.Forall₂ (fun d file =>
          file.content.lines.filter Target.isImportLine = d.others.map interfaceImportLine)
        (declarations ⟨.typescript, {}⟩ ⟨"Order", []⟩ orderValue) files) ∧
    ∃ files, fileSet ⟨.java, {}⟩ ⟨"Order", []⟩ orderSample = .ok files ∧
      List.Forall₂ (fun d file => classImportLine Target.listImport ∈ file.content.lines ↔
          ∃ field ∈ d.fields, Target.listMark <:+: Target.java.typeText field.type)
        (declarations ⟨.java, {}⟩ ⟨"Order", []⟩ orderValue) files := by
  obtain ⟨hthere, hinterfaces, hclasses⟩ :=
    fileSet_imports ⟨"Order", []⟩ orderSample (by decide) readSample_order
  obtain ⟨interfaces, hi⟩ := (hthere ⟨.typescript, {}⟩).mpr ⟨_, rfl⟩
  obtain ⟨classes, hc⟩ := (hthere ⟨.java, {}⟩).mpr ⟨_, rfl⟩
  exact ⟨⟨interfaces, hi, (hinterfaces {} interfaces hi).imp fun _ _ h => h.2.1⟩, classes, hc,
    (hclasses {} classes Settings.spaceless_default hc).imp fun _ _ h => h.2⟩

/-- Settings that bring a line of their own. -/
def brokenSettings : Settings := { packageName := "a;\nimport java.util.List" }

/-- A class without fields imports lists if its package says so. -/
theorem fileSet_of_broken_package : Text.isBlank "Root" = false ∧
    readSample "\x7b\x7d".toList = .ok (.obj []) ∧
    declarations ⟨.java, brokenSettings⟩ ⟨"Root", []⟩ (.obj []) = [{ name := "RootDto" }] ∧
    ∃ content, fileSet ⟨.java, brokenSettings⟩ ⟨"Root", []⟩ "\x7b\x7d".toList =
        .ok [⟨"RootDto.java", content⟩] ∧
      classImportLine Target.listImport ∈ content.lines :=
  ⟨by decide, rfl, rfl, _, rfl, by decide +kernel⟩

end Generator

end SampleTypes
