import SampleTypes.Proofs.Generation.Imports

/-!
# What a set of interfaces exports

What the file of an interface imports follows from its fields, and whether it exports anything follows
from the settings. The two are never brought together:

> **what a file imports is declared by another file of the set, and exported iff the settings export
> what is declared.**

So a set of which some file imports something holds together iff its settings export
(`Generator.exportsImports_iff`).
-/

set_option autoImplicit false

namespace SampleTypes

/-- The line that opens an interface and exports it. -/
def exportLine (name : Text) : Text := ("export interface " : Text) ++ name ++ (" \x7b" : Text)

/-- The line that opens an interface and does not export it. -/
def plainLine (name : Text) : Text := ("interface " : Text) ++ name ++ (" \x7b" : Text)

theorem exportLine_ne_plainLine (name : Text) : exportLine name ≠ plainLine name := by
  intro h
  have hlength := congrArg List.length (List.append_cancel_right (List.append_cancel_right h))
  exact absurd hlength (by decide)

theorem Target.declarationLine_typescript (settings : Settings) (name : Text) :
    typescript.declarationLine settings name =
      if settings.exportDeclarations then exportLine name else plainLine name := by
  rw [declarationLine]
  cases settings.exportDeclarations <;> rfl

namespace Generator

/-- Every interface that a file of the set imports is exported by the file that has its name. -/
def ExportsImports (files : List GeneratedFile) : Prop :=
  ∀ file ∈ files, ∀ name, interfaceImportLine name ∈ file.content.lines →
    ∃ other ∈ files, other.name = name ++ (".ts" : Text) ∧ exportLine name ∈ other.content.lines

section

variable {naming : RootNaming} {text : List Char} {value : Json} {settings : Settings}
  {files : List GeneratedFile} {file : GeneratedFile} {name : Text}
  (hroot : naming.rootName.isBlank = false) (hread : readSample text = .ok value)
  (hfiles : fileSet ⟨.typescript, settings⟩ naming text = .ok files)

include hroot hread hfiles

/-- Each file has the name of an interface; it imports what that refers to, and opens nothing else. -/
theorem exists_interface_of_mem_fileSet (hfile : file ∈ files) :
    ∃ d ∈ declarations ⟨.typescript, settings⟩ naming value,
      file.name = d.name ++ (".ts" : Text) ∧
      file.content.lines.filter Target.isImportLine = d.others.map interfaceImportLine ∧
      file.content.lines.filter Target.opensDeclaration =
        [if settings.exportDeclarations then exportLine d.name else plainLine d.name] := by
  obtain ⟨d, _, ⟨hd, hclean⟩, hname, hcontent⟩ :=
    exists_of_mem_right (forall₂_clean_of_fileSet hroot hread hfiles) hfile
  obtain ⟨indent, _, hlines⟩ := Target.exists_lines_of_interface hclean hcontent
  refine ⟨d, hd, hname, Target.filter_isImportLine_interface hclean hcontent, ?_⟩
  rw [hlines, Target.filter_fileLines, Target.declarationLine_typescript]

/-- A file that has the name of an interface declares it. -/
theorem filter_opensDeclaration_of_name (hfile : file ∈ files)
    (hname : file.name = name ++ (".ts" : Text)) :
    file.content.lines.filter Target.opensDeclaration =
      [if settings.exportDeclarations then exportLine name else plainLine name] := by
  obtain ⟨d, _, hnamed, _, hopens⟩ := exists_interface_of_mem_fileSet hroot hread hfiles hfile
  rwa [List.append_cancel_right (hnamed.symm.trans hname)] at hopens

/-- It exports it iff the settings export. -/
theorem exportLine_mem_iff (hfile : file ∈ files) (hname : file.name = name ++ (".ts" : Text)) :
    exportLine name ∈ file.content.lines ↔ settings.exportDeclarations = true := by
  have hopens : Target.opensDeclaration (exportLine name) = true :=
    Target.opensDeclaration_append (by decide)
  have hline : exportLine name ∈ file.content.lines ↔
      exportLine name ∈ file.content.lines.filter Target.opensDeclaration := by
    rw [List.mem_filter, and_iff_left hopens]
  rw [hline, filter_opensDeclaration_of_name hroot hread hfiles hfile hname, List.mem_singleton]
  cases settings.exportDeclarations with
  | true => simp
  | false => simpa using exportLine_ne_plainLine name

/-- What a file imports has a file in the set. -/
theorem exists_file_of_importLine (hfile : file ∈ files)
    (hline : interfaceImportLine name ∈ file.content.lines) :
    ∃ other ∈ files, other.name = name ++ (".ts" : Text) := by
  obtain ⟨d, hd, _, himports, _⟩ := exists_interface_of_mem_fileSet hroot hread hfiles hfile
  have himport : interfaceImportLine name ∈ file.content.lines.filter Target.isImportLine :=
    List.mem_filter.mpr ⟨hline, rfl⟩
  rw [himports] at himport
  obtain ⟨other, hother, heq⟩ := List.mem_map.mp himport
  exact exists_file_of_mem_others hroot hread hfiles hd (interfaceImportLine_inj heq ▸ hother)

end

/-- **What a file imports is declared in its set, and is exported iff the settings export.** The file
that has the name of what is imported opens that interface and nothing else, with `export` before it or
without, as the settings say. So every imported interface is exported iff the settings export or nothing
is imported. There is a set of files iff there is an indentation. -/
theorem exportsImports_iff (naming : RootNaming) (text : List Char) {value : Json}
    (hroot : naming.rootName.isBlank = false) (hread : readSample text = .ok value)
    (settings : Settings) :
    ((∃ files, fileSet ⟨.typescript, settings⟩ naming text = .ok files) ↔
      ∃ indent, settings.indent = .ok indent) ∧
    ∀ files, fileSet ⟨.typescript, settings⟩ naming text = .ok files →
      (∀ file ∈ files, ∀ name, interfaceImportLine name ∈ file.content.lines →
        ∃ other ∈ files, other.name = name ++ (".ts" : Text) ∧
          other.content.lines.filter Target.opensDeclaration =
            [if settings.exportDeclarations then exportLine name else plainLine name]) ∧
      (ExportsImports files ↔ settings.exportDeclarations = true ∨
        ∀ file ∈ files, ∀ name, interfaceImportLine name ∉ file.content.lines) := by
  refine ⟨exists_fileSet_iff hroot hread, fun files hfiles => ⟨fun file hfile name hline => ?_,
    fun hexports => or_iff_not_imp_left.mpr fun hplain file hfile name hline => hplain ?_, ?_⟩⟩
  · obtain ⟨other, hother, hname⟩ := exists_file_of_importLine hroot hread hfiles hfile hline
    exact ⟨other, hother, hname,
      filter_opensDeclaration_of_name hroot hread hfiles hother hname⟩
  · obtain ⟨other, hother, hname, hexport⟩ := hexports file hfile name hline
    exact (exportLine_mem_iff hroot hread hfiles hother hname).mp hexport
  · rintro (hexported | hnone) file hfile name hline
    · obtain ⟨other, hother, hname⟩ := exists_file_of_importLine hroot hread hfiles hfile hline
      exact ⟨other, hother, hname,
        (exportLine_mem_iff hroot hread hfiles hother hname).mpr hexported⟩
    · exact absurd hline (hnone file hfile name)

/-- A generator of interfaces that exports nothing. -/
def plainInterfaces : Generator := ⟨.typescript, { exportDeclarations := false }⟩

/-- A sample with an object in it. -/
def nestedSample : List Char := "\x7b\"a\":\x7b\x7d\x7d".toList

/-- The value in it. -/
def nestedValue : Json := .obj [("a", .obj [])]

/-- Its files, when nothing is exported. -/
def plainFiles : List GeneratedFile :=
  [⟨"IA.ts", "interface IA \x7b\n\x7d"⟩,
   ⟨"IRoot.ts", "import \x7b IA \x7d from './IA';\n\ninterface IRoot \x7b\n  a: IA;\n\x7d"⟩]

theorem readSample_nested : readSample nestedSample = .ok nestedValue := by cbv

theorem fileSet_nested : plainInterfaces.fileSet ⟨"Root", []⟩ nestedSample = .ok plainFiles := by
  have hdeclarations : (Schema.ofValue (plainInterfaces.style []) "Root" nestedValue).declarations =
      [{ name := "IA" }, ⟨"IRoot", [⟨"a", "a", .ref "IA"⟩], ["IA"]⟩] := by decide
  have hfiles : plainInterfaces.filesOf
      (Schema.ofValue (plainInterfaces.style []) "Root" nestedValue) = .ok plainFiles := by
    rw [filesOf, hdeclarations]
    rfl
  rw [fileSet, schema_of_readable _ (by decide) readSample_nested]
  exact hfiles

/-- The file of the root imports the other one. -/
theorem exists_importLine_nested :
    ∃ file ∈ plainFiles, interfaceImportLine "IA" ∈ file.content.lines :=
  ⟨_, List.mem_of_getElem? (i := 1) rfl, by decide +kernel⟩

theorem exportsImports_iff_nested :
    plainInterfaces.fileSet ⟨"Root", []⟩ nestedSample = .ok plainFiles ∧
    ∃ other ∈ plainFiles, other.name = ("IA" : Text) ++ (".ts" : Text) ∧
      other.content.lines.filter Target.opensDeclaration = [plainLine "IA"] := by
  obtain ⟨file, hfile, hline⟩ := exists_importLine_nested
  have hsets := exportsImports_iff ⟨"Root", []⟩ nestedSample (by decide) readSample_nested
    plainInterfaces.settings
  exact ⟨fileSet_nested, (hsets.2 plainFiles fileSet_nested).1 file hfile "IA" hline⟩

/-- An interface is imported and not exported, where nothing is exported. -/
theorem not_exportsImports_of_plain :
    Text.isBlank "Root" = false ∧ readSample nestedSample = .ok nestedValue ∧
    plainInterfaces.fileSet ⟨"Root", []⟩ nestedSample = .ok plainFiles ∧
    ¬ ExportsImports plainFiles := by
  refine ⟨by decide, readSample_nested, fileSet_nested, fun hexports => ?_⟩
  obtain ⟨file, hfile, hline⟩ := exists_importLine_nested
  obtain ⟨other, hother, hname, hexport⟩ := hexports file hfile "IA" hline
  have hplain := (exportLine_mem_iff (by decide) readSample_nested fileSet_nested hother hname).mp
    hexport
  exact absurd hplain (by decide)

end Generator

end SampleTypes
