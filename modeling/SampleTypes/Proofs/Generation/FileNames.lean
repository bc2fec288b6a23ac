import SampleTypes.Files.Path
import SampleTypes.Proofs.Generation.Outcome

/-!
# The names of generated files

Keys, the name of the root and the suffix may hold anything, `/` and `..` as well, and from them the
names of files are made.

> **No file is written over another one of its set, and none outside the directory.**

What files are called follows from what declarations are called: their names are distinct, and all
that could mean something in a path was left out of them when hints were split into words.
-/

set_option autoImplicit false

namespace SampleTypes

open Text (IsName)

/-! ## Stems -/

namespace FilePath

/-- The marks that are kept out of the names of files: those that mean something in a path, and the
quotes. -/
def stemMarks : Text := Text.ofChars ['/', '\\', '.', '\x00', '\x27', '"', '\x60']

/-- A text that may be the name of a file up to its ending. -/
structure IsStem (t : Text) : Prop where
  nonempty : t ≠ []
  solid : ∀ c ∈ t, c.isBlank = false
  unmarked : ∀ c ∈ stemMarks, c ∉ t

theorem partsOf_of_notMem {t : Text} (hslash : slash ∉ t) (hne : t ≠ []) (hhere : t ≠ here) :
    partsOf t = [t] := by
  have hwhole : t.splitOn slash = [t] := by
    have hpieces : ([slash].intercalate [t]).splitOn slash = [t] :=
      List.splitOn_intercalate slash (by simpa using hslash) (by simp)
    rwa [List.intercalate_singleton, ← Text.splitOn_eq_splitOn] at hpieces
  rw [partsOf, hwhole]
  simp [hne, hhere]

/-- The name of an entry of a directory is one component of its path, and neither the directory itself
nor the one above. -/
structure IsEntry (t : Text) : Prop where
  parts : partsOf t = [t]
  apart : t ≠ above

namespace IsEntry

variable {t : Text}

theorem parent_child (h : IsEntry t) (directory : FilePath) :
    (directory.child t).parent = directory := by
  rw [child, parent, h.parts, List.dropLast_concat]

theorem name_child (h : IsEntry t) (directory : FilePath) : (directory.child t).name = t := by
  rw [child, name, h.parts, List.getLastD_concat]

end IsEntry

theorem IsStem.isEntry {stem : Text} (h : IsStem stem) (target : Target) :
    IsEntry (stem ++ target.fileEnding) := by
  have hslash : slash ∉ stem ++ target.fileEnding := by
    have hending : slash ∉ target.fileEnding := by cases target <;> decide
    rw [List.mem_append, not_or]
    exact ⟨h.unmarked slash (by decide), hending⟩
  -- The components that are no entries are shorter than any ending.
  have hlong : ∀ t : Text, t.length ≤ 2 → stem ++ target.fileEnding ≠ t := by
    rintro t ht rfl
    have hending : 2 < target.fileEnding.length := by cases target <;> decide
    rw [List.length_append] at ht
    omega
  exact ⟨partsOf_of_notMem hslash (hlong [] (by decide)) (hlong here (by decide)),
    hlong above (by decide)⟩

end FilePath

theorem Text.IsName.isStem {t : Text} (h : IsName t) : FilePath.IsStem t := by
  have hmarks : ∀ c ∈ FilePath.stemMarks, c.isNamePart = false := by decide
  exact ⟨h.1, fun c hc => CodePoint.isBlank_of_isNamePart (h.2 c hc),
    fun c hc => h.notMem (hmarks c hc)⟩

/-! ## Sets of files -/

/-- A file can be written iff there is an indentation, whatever else the settings say. -/
theorem Target.exists_file_iff (target : Target) (settings : Settings) (d : Declaration) :
    (∃ content, target.file settings d = .ok content) ↔ ∃ indent, settings.indent = .ok indent := by
  cases target with
  | typescript =>
    rw [file, interfaceCode_eq]
    cases settings.indent <;> simp [bind, Except.bind, pure, Except.pure]
  | java =>
    rw [file, document, header_eq, mapM_unit_eq java (by simp)]
    cases settings.indent <;> simp [bind, Except.bind, pure, Except.pure]

namespace Generator

variable {generator : Generator} {naming : RootNaming} {text : List Char} {value : Json}

section

variable (hroot : naming.rootName.isBlank = false) (hread : readSample text = .ok value)

include hroot hread

/-- A set of files has one for each declaration, in their order. -/
theorem fileSet_eq_ok_iff {files : List GeneratedFile} : generator.fileSet naming text = .ok files ↔
    List.Forall₂ (fun d file => file.name = generator.target.fileName d ∧
        generator.target.file generator.settings d = .ok file.content)
      (generator.declarations naming value) files := by
  have hfileOf : ∀ d (file : GeneratedFile), generator.fileOf d = .ok file ↔
      file.name = generator.target.fileName d ∧
        generator.target.file generator.settings d = .ok file.content := by
    rintro d ⟨name, content⟩
    rw [fileOf]
    cases generator.target.file generator.settings d <;>
      simp [bind, Except.bind, pure, Except.pure, eq_comm]
  have hset : generator.fileSet naming text = .ok files ↔
      (generator.declarations naming value).mapM generator.fileOf = .ok files := by
    rw [fileSet, generator.schema_of_readable hroot hread]
    show generator.filesOf _ = _ ↔ _
    rw [filesOf, ← declarations]
    cases (generator.declarations naming value).mapM generator.fileOf <;> simp
  rw [hset, mapM_eq_ok_iff]
  simp only [hfileOf]

theorem exists_fileSet_iff : (∃ files, generator.fileSet naming text = .ok files) ↔
    ∃ indent, generator.settings.indent = .ok indent := by
  have hexists := generator.target.exists_file_iff generator.settings
  simp only [fileSet_eq_ok_iff hroot hread]
  constructor
  · rintro ⟨files, hfiles⟩
    obtain ⟨d, ds, hds⟩ := List.exists_cons_of_ne_nil
      (declarations_ofValue_ne_nil (generator.style naming.suffix) naming.rootName value)
    rw [declarations, hds] at hfiles
    cases hfiles with
    | cons hfile _ => exact (hexists d).mp ⟨_, hfile.2⟩
  · intro hindent
    induction generator.declarations naming value with
    | nil => exact ⟨[], .nil⟩
    | cons d ds ih =>
      obtain ⟨content, hcontent⟩ := (hexists d).mpr hindent
      obtain ⟨files, hfiles⟩ := ih
      exact ⟨⟨generator.target.fileName d, content⟩ :: files, .cons ⟨rfl, hcontent⟩ hfiles⟩

theorem names_of_fileSet {files : List GeneratedFile}
    (hfiles : generator.fileSet naming text = .ok files) :
    files.map (·.name) = (generator.declarations naming value).map generator.target.fileName := by
  exact map_eq_map_of_forall₂ ((fileSet_eq_ok_iff hroot hread).mp hfiles).flip fun _ _ h => h.1

theorem exists_stem_of_fileSet {files : List GeneratedFile}
    (hfiles : generator.fileSet naming text = .ok files) : ∀ file ∈ files, ∃ stem,
      FilePath.IsStem stem ∧ file.name = stem ++ generator.target.fileEnding := by
  intro file hfile
  have hmem : file.name ∈ (generator.declarations naming value).map generator.target.fileName :=
    names_of_fileSet hroot hread hfiles ▸ List.mem_map_of_mem hfile
  obtain ⟨d, hd, hname⟩ := List.mem_map.mp hmem
  have hclean := clean_ofValue generator naming.suffix naming.rootName value d hd
  exact ⟨d.name, hclean.name.isStem, hname.symm⟩

theorem isEntry_of_fileSet {files : List GeneratedFile}
    (hfiles : generator.fileSet naming text = .ok files) :
    ∀ file ∈ files, FilePath.IsEntry file.name := by
  intro file hfile
  obtain ⟨stem, hstem, hname⟩ := exists_stem_of_fileSet hroot hread hfiles file hfile
  exact hname ▸ hstem.isEntry generator.target

theorem nodup_names_of_fileSet {files : List GeneratedFile}
    (hfiles : generator.fileSet naming text = .ok files) : (files.map (·.name)).Nodup := by
  have hdeclared : ((generator.declarations naming value).map (·.name)).Nodup :=
    (connected_ofValue (generator.style naming.suffix) naming.rootName value).distinct
  rw [names_of_fileSet hroot hread hfiles]
  have hended := hdeclared.map (f := (· ++ generator.target.fileEnding))
    fun _ _ h => List.append_cancel_right h
  rwa [List.map_map] at hended

end

/-- **No file is written over another one of its set, and none outside its directory**, whatever the
sample, the name of the root, the suffix and the settings are. There is a set of files iff there is an
indentation; its names are distinct, and each is a stem without white space, quotes and marks of
paths, and the ending of the target. So in any directory their paths are distinct, and each is that
of an entry of the directory. -/
theorem fileNames_safe (generator : Generator) (naming : RootNaming) (text : List Char)
    {value : Json} (hroot : naming.rootName.isBlank = false) (hread : readSample text = .ok value) :
    ((∃ files, generator.fileSet naming text = .ok files) ↔
      ∃ indent, generator.settings.indent = .ok indent) ∧
    ∀ files, generator.fileSet naming text = .ok files →
      (files.map (·.name)).Nodup ∧
      (∀ file ∈ files, ∃ stem, FilePath.IsStem stem ∧
        file.name = stem ++ generator.target.fileEnding) ∧
      ∀ directory : FilePath, (files.map fun file => directory.child file.name).Nodup ∧
        ∀ file ∈ files, file.name ≠ FilePath.above ∧
          (directory.child file.name).parent = directory ∧
          (directory.child file.name).name = file.name := by
  refine ⟨exists_fileSet_iff hroot hread, fun files hfiles => ?_⟩
  have hstems := exists_stem_of_fileSet hroot hread hfiles
  have hentry := isEntry_of_fileSet hroot hread hfiles
  have hdistinct := nodup_names_of_fileSet hroot hread hfiles
  refine ⟨hdistinct, hstems, fun directory => ⟨?_, fun file hfile => ?_⟩⟩
  · -- The names can be read from the paths.
    refine List.Nodup.of_map FilePath.name ?_
    rw [List.map_map]
    have hback : files.map (FilePath.name ∘ fun file => directory.child file.name) =
        files.map (·.name) :=
      List.map_congr_left fun file hfile => (hentry file hfile).name_child directory
    rwa [hback]
  · have h := hentry file hfile
    exact ⟨h.apart, h.parent_child directory, h.name_child directory⟩

/-- The name of the root and the suffix of a sample that tries to get out of the directory. -/
def strayNaming : RootNaming := ⟨"../a", "/.."⟩

theorem fileNames_safe_stray : ∃ files,
    fileSet ⟨.java, {}⟩ strayNaming orderSample = .ok files ∧ (files.map (·.name)).Nodup ∧
      ∀ file ∈ files, ∃ stem, FilePath.IsStem stem ∧ file.name = stem ++ Target.java.fileEnding := by
  obtain ⟨hthere, hsafe⟩ :=
    fileNames_safe ⟨.java, {}⟩ strayNaming orderSample (by decide) readSample_order
  obtain ⟨files, hfiles⟩ := hthere.mpr ⟨_, rfl⟩
  obtain ⟨hdistinct, hstems, _⟩ := hsafe files hfiles
  exact ⟨files, hfiles, hdistinct, hstems⟩

end Generator

end SampleTypes
