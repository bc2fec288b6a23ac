import SampleTypes.Proofs.CommandLine.Arguments
import SampleTypes.Proofs.CommandLine.Stages

/-!
# Putting code out

All code is generated before any of it is put out. So a run that fails has left nothing behind, neither on
standard output nor in files, unless it failed in putting out: then the system refused to write, or the
failure is none that the program reports (`RunStep.aborts_produce`). A run that does not fail has put out
what the library generates (`RunStep.puts_of_run_putCode`).
-/

set_option autoImplicit false

namespace SampleTypes

namespace RunFailure

/-- Whether the system refused to write output. -/
def isWriteFailure : RunFailure → Bool
  | document _ fault => fault.number?.isSome
  | fileSet _ _ fault => fault.number?.isSome
  | _ => false

/-- The failures of a run that has begun to put out. -/
def IsLate (failure : RunFailure) : Prop :=
  failure.isReported = true → failure.isWriteFailure = true

theorem isLate_document (path : FilePath) (fault : FileFault) : (document path fault).IsLate := by
  cases fault <;> simp [IsLate, isReported, isWriteFailure, FileFault.number?]

theorem isLate_fileSet (directory path : FilePath) (fault : FileFault) :
    (fileSet directory path fault).IsLate := by
  cases fault <;> simp [IsLate, isReported, isWriteFailure, FileFault.number?]

end RunFailure

/-- What a failure leaves behind. -/
structure Session.Aborted (s : Session) (failure : RunFailure) (t : Session) : Prop where
  output : t.output = s.output
  files : t.files = s.files ∨ failure.IsLate

namespace RunStep

open Step

variable {α β : Type} {x : RunStep α} {f : α → RunStep β} {s t : Session}

/-! ## Failures -/

/-- A step whose failures are those of a run that has begun to put out. -/
def FailsLate (x : RunStep α) : Prop := ∀ s e t, run x s = (.error e, t) → e.IsLate

namespace FailsLate

theorem bind (hx : FailsLate x) (hf : ∀ a, FailsLate (f a)) : FailsLate (x >>= f) := by
  intro s e t h
  rcases run_bind_eq_error.mp h with hfirst | ⟨a, u, _, hsecond⟩
  · exact hx s e t hfirst
  · exact hf a u e t hsecond

theorem forM {γ : Type} {g : γ → RunStep PUnit} {cs : List γ} (hg : ∀ c ∈ cs, FailsLate (g c)) :
    FailsLate (cs.forM g) := by
  induction cs with
  | nil =>
    intro s e t h
    cases h
  | cons c cs ih =>
    obtain ⟨hc, hcs⟩ := List.forall_mem_cons.mp hg
    exact hc.bind fun _ => ih hcs

theorem modify (g : Session → Session) : FailsLate (modify g : RunStep PUnit) := by
  intro s e t h
  cases h

theorem ofExcept {ε : Type} {failure : ε → RunFailure} (h : ∀ fault, (failure fault).IsLate)
    (r : Except ε α) : FailsLate (ofExcept failure r) := by
  intro s e t hrun
  obtain ⟨fault, _, rfl, _⟩ := run_ofExcept_eq_error.mp hrun
  exact h fault

end FailsLate

/-- A step that leaves behind, where it fails, only what a run may that has begun to put out. -/
def Aborts (x : RunStep α) : Prop := ∀ s e t, run x s = (.error e, t) → s.Aborted e t

namespace Aborts

theorem of_isQuiet (hx : IsQuiet x) : Aborts x := by
  intro s e t h
  have hquiet := hx.of_run h
  exact ⟨hquiet.output, .inl hquiet.files⟩

/-- What was quiet before a failure is not seen after it. -/
theorem bind (hx : IsQuiet x) (hf : ∀ a, Aborts (f a)) : Aborts (x >>= f) := by
  intro s e t h
  rcases run_bind_eq_error.mp h with hfirst | ⟨a, u, hfirst, hsecond⟩
  · exact of_isQuiet hx s e t hfirst
  · have hquiet := hx.of_run hfirst
    obtain ⟨houtput, hfiles⟩ := hf a u e t hsecond
    exact ⟨houtput.trans hquiet.output, hquiet.files ▸ hfiles⟩

theorem bind_pure (hx : Aborts x) (b : β) : Aborts (x >>= fun _ => (pure b : RunStep β)) := by
  intro s e t h
  rcases run_bind_eq_error.mp h with hfirst | ⟨_, _, _, hsecond⟩
  · exact hx s e t hfirst
  · cases hsecond

end Aborts

/-! ## Files -/

/-- A step that leaves standard output alone. -/
abbrev KeepsOutput (x : RunStep α) : Prop :=
  Keeps (fun s t : Session => t.output = s.output) x

theorem IsQuiet.keepsOutput (hx : IsQuiet x) : KeepsOutput x := fun s => (hx s).output

theorem KeepsOutput.bind (hx : KeepsOutput x) (hf : ∀ a, KeepsOutput (f a)) :
    KeepsOutput (x >>= f) :=
  Keeps.bind (fun _ _ _ h h' => h'.trans h) hx hf

theorem KeepsOutput.forM {γ : Type} {g : γ → RunStep PUnit} {cs : List γ}
    (hg : ∀ c ∈ cs, KeepsOutput (g c)) : KeepsOutput (cs.forM g) :=
  Keeps.forM (r := fun s t : Session => t.output = s.output) (fun _ _ _ h h' => h'.trans h)
    (fun _ => rfl) hg

theorem Aborts.of_late (hx : KeepsOutput x) (hlate : FailsLate x) : Aborts x :=
  fun s e t h => ⟨hx.of_run h, .inr (hlate s e t h)⟩

section Writing

variable {path : FilePath} {text : Text} {bytes : List UInt8} {failure : FileFault → RunFailure}

theorem keepsOutput_writeBytes : KeepsOutput (writeBytes path bytes failure) :=
  IsQuiet.get.keepsOutput.bind fun _ => (isQuiet_ofExcept _ _).keepsOutput.bind fun _ =>
    Keeps.modify fun _ => rfl

theorem keepsOutput_writeText : KeepsOutput (writeText path text failure) := by
  rw [writeText]
  split
  · exact keepsOutput_writeBytes
  · exact keepsOutput_writeBytes.bind fun _ => (IsQuiet.throw _).keepsOutput

theorem failsLate_writeBytes (h : ∀ fault, (failure fault).IsLate) :
    FailsLate (writeBytes path bytes failure) := by
  intro s e t hrun
  rw [writeBytes, run_get_bind] at hrun
  exact (FailsLate.ofExcept h _).bind (fun _ => .modify _) s e t hrun

theorem failsLate_writeText (h : ∀ fault, (failure fault).IsLate) :
    FailsLate (writeText path text failure) := by
  rw [writeText]
  split
  · exact failsLate_writeBytes h
  · refine (failsLate_writeBytes h).bind fun _ s e t hrun => ?_
    cases hrun
    exact fun hreported => absurd hreported (by simp [RunFailure.isReported])

theorem failsLate_print (text : Text) : FailsLate (print text) :=
  (FailsLate.ofExcept (fun _ hreported => absurd hreported (by simp [RunFailure.isReported])) _).bind
    fun _ => .modify _

theorem exists_writes_of_run_writeText {u : Unit}
    (h : run (writeText path text failure) s = (.ok u, t)) :
    Utf8.surrogateFault? 0 text = none ∧
      ∃ place, s.files.Writes t.files path place (Utf8.encode text) := by
  rw [writeText] at h
  split at h
  · rename_i bytes hbytes
    obtain ⟨hnone, rfl⟩ := FileTree.encodeStrictly_eq_ok.mp hbytes
    rw [writeBytes, run_get_bind] at h
    obtain ⟨files, _, hrun, h⟩ := run_bind_eq_ok.mp h
    obtain ⟨hwrite, rfl⟩ := run_ofExcept_eq_ok.mp hrun
    cases h
    exact ⟨hnone, FileTree.exists_writes hwrite⟩
  · obtain ⟨_, _, _, h⟩ := run_bind_eq_ok.mp h
    cases h

end Writing

section Directory

variable {directory : FilePath} {files : List GeneratedFile}

/-- The texts of files, with their names. -/
abbrev textsOf (files : List GeneratedFile) : List (Text × Text) :=
  files.map fun file => (file.name, withLineFeed file.content)

theorem keepsOutput_makeDirectories : KeepsOutput (makeDirectories directory) := by
  refine IsQuiet.get.keepsOutput.bind fun session => KeepsOutput.bind (Keeps.modify fun _ => rfl) ?_
  intro _
  split
  · exact (IsQuiet.throw _).keepsOutput
  · exact (IsQuiet.pure _).keepsOutput

theorem failsLate_makeDirectories : FailsLate (makeDirectories directory) := by
  intro s e t h
  rw [makeDirectories, run_get_bind] at h
  refine FailsLate.bind (.modify _) (fun _ => ?_) s e t h
  split
  · intro s e t h
    cases h
    exact RunFailure.isLate_fileSet _ _ _
  · intro s e t h
    cases h

theorem grows_of_run_makeDirectories {u : Unit}
    (h : run (makeDirectories directory) s = (.ok u, t)) : s.files.Grows t.files := by
  have hgrows := FileTree.grows_makeDirectories s.files directory
  rw [makeDirectories, run_get_bind] at h
  dsimp only at h
  rw [run_modify_bind] at h
  split at h
  · cases h
  · cases h
    exact hgrows

theorem writesAll_of_run_forM {u : Unit}
    (h : run (files.forM fun file => writeText (directory.child file.name)
      (withLineFeed file.content) (.fileSet directory (directory.child file.name))) s = (.ok u, t)) :
    (∀ text ∈ textsOf files, Utf8.surrogateFault? 0 text.2 = none) ∧
      s.files.WritesAll t.files (FileTree.contentsIn directory (textsOf files)) := by
  induction files generalizing s with
  | nil =>
    cases h
    exact ⟨by simp, .nil⟩
  | cons file files ih =>
    obtain ⟨_, between, hfirst, hrest⟩ := run_bind_eq_ok.mp h
    obtain ⟨hnone, place, hwrite⟩ := exists_writes_of_run_writeText hfirst
    obtain ⟨hnones, hwrites⟩ := ih hrest
    exact ⟨List.forall_mem_cons.mpr ⟨hnone, hnones⟩, .cons hwrite hwrites⟩

end Directory

/-! ## Code -/

section Code

variable {generator : Generator} {arguments : Arguments} {text : Text}

theorem aborts_putDocument {code : Text} {output : Option Text} :
    Aborts (putDocument generator code output) := by
  rw [putDocument]
  split
  · refine .of_late (keepsOutput_writeText.bind fun _ => (isQuiet_print _).keepsOutput) ?_
    exact (failsLate_writeText (RunFailure.isLate_document _)).bind fun _ => failsLate_print _
  · intro s e t h
    cases h

theorem aborts_putCode : Aborts (putCode generator arguments text) := by
  rw [putCode]
  split
  · refine .bind (isQuiet_inferSchema _ _ _) fun _ => .bind (isQuiet_ofExcept _ _) fun _ => ?_
    refine .of_late ?_ ?_
    · exact keepsOutput_makeDirectories.bind fun _ =>
        KeepsOutput.bind (.forM fun _ _ => keepsOutput_writeText) fun _ =>
          (isQuiet_print _).keepsOutput
    · refine failsLate_makeDirectories.bind fun _ => .bind (.forM fun file _ => ?_) fun _ =>
        failsLate_print _
      exact failsLate_writeText (RunFailure.isLate_fileSet _ _)
  · exact .bind (isQuiet_inferSchema _ _ _) fun _ => .bind (isQuiet_log _) fun _ =>
      .bind (isQuiet_ofExcept _ _) fun _ => aborts_putDocument

/-- **A run that fails has left nothing behind** unless it failed in putting out. -/
theorem aborts_produce (surroundings : Surroundings) (arguments : Arguments) (wanted : Text) :
    Aborts (produce surroundings arguments wanted) :=
  .bind (isQuiet_makeGenerator _ _) fun _ => .bind (isQuiet_loadSample _ _) fun _ =>
    .bind (isQuiet_log _) fun _ => aborts_putCode.bind_pure _

theorem exists_code_of_run_runDocument {u : Unit}
    (h : run (runDocument generator arguments text) s = (.ok u, t)) :
    ∃ code between, generator.document arguments.rootNaming (text.map CodePoint.toChar) = .ok code ∧
      s.Quiet between ∧ run (putDocument generator code arguments.output) between = (.ok u, t) := by
  obtain ⟨schema, s₁, hinfer, h⟩ := run_bind_eq_ok.mp h
  obtain ⟨_, s₂, hlog, h⟩ := run_bind_eq_ok.mp h
  obtain ⟨code, s₃, hrun, h⟩ := run_bind_eq_ok.mp h
  obtain ⟨hcode, rfl⟩ := run_ofExcept_eq_ok.mp hrun
  refine ⟨code, s₂, ?_, ?_, h⟩
  · rw [Generator.document, schema_of_run_inferSchema hinfer]
    exact hcode
  · exact Session.Quiet.trans _ _ _ ((isQuiet_inferSchema _ _ _).of_run hinfer)
      ((isQuiet_log _).of_run hlog)

theorem exists_files_of_run_runFileSet {u : Unit} {directory : Text}
    (h : run (runFileSet generator arguments text directory) s = (.ok u, t)) :
    ∃ files, generator.fileSet arguments.rootNaming (text.map CodePoint.toChar) = .ok files ∧
      t.output = s.output ∧
      s.files.SavedIn t.files (FilePath.ofText directory) (textsOf files) := by
  -- The stages in turn: the schema, the code, the directories, the files, and what is said about them.
  obtain ⟨schema, s₁, hinfer, h⟩ := run_bind_eq_ok.mp h
  obtain ⟨files, s₂, hrun, h⟩ := run_bind_eq_ok.mp h
  obtain ⟨hfiles, rfl⟩ := run_ofExcept_eq_ok.mp hrun
  obtain ⟨_, s₃, hmake, h⟩ := run_bind_eq_ok.mp h
  obtain ⟨_, s₄, hwrite, hprint⟩ := run_bind_eq_ok.mp h
  have hinferred := (isQuiet_inferSchema _ _ _).of_run hinfer
  have hprinted := (isQuiet_print _).of_run hprint
  have hset : generator.fileSet arguments.rootNaming (text.map CodePoint.toChar) = .ok files := by
    rw [Generator.fileSet, schema_of_run_inferSchema hinfer]
    exact hfiles
  obtain ⟨hroot, value, hread, _⟩ :=
    Generator.exists_value_of_schema (schema_of_run_inferSchema hinfer)
  refine ⟨files, hset, ?_, ?_⟩
  · rw [hprinted.output, ← hinferred.output]
    have hmade : s₃.output = s₁.output := keepsOutput_makeDirectories.of_run hmake
    have hkeeps : KeepsOutput (files.forM fun file =>
        let path := (FilePath.ofText directory).child file.name
        writeText path (withLineFeed file.content) (.fileSet (FilePath.ofText directory) path)) :=
      .forM fun _ _ => keepsOutput_writeText
    exact (hkeeps.of_run hwrite).trans hmade
  · have hgrows := grows_of_run_makeDirectories hmake
    obtain ⟨hencoded, hwrites⟩ := writesAll_of_run_forM hwrite
    rw [hinferred.files] at hgrows
    rw [hprinted.files]
    refine hwrites.savedIn hgrows hencoded ?_ ?_
    · rintro _ htext
      obtain ⟨file, hfile, rfl⟩ := List.mem_map.mp htext
      exact Generator.isEntry_of_fileSet hroot hread hset file hfile
    · have hdistinct := Generator.nodup_names_of_fileSet hroot hread hset
      rwa [textsOf, List.map_map]

end Code

end RunStep

/-! ## What is asked for -/

namespace Arguments

/-- The file in which the document is asked for; an empty name is none. -/
def documentFile? (arguments : Arguments) : Option Text :=
  arguments.output.filter fun path => !path.isEmpty

/-- The directory in which a set of files is asked for; an empty name is none. -/
def filesDirectory? (arguments : Arguments) : Option Text :=
  arguments.split.filter fun directory => !directory.isEmpty

/-- What was asked for was put out: the document on standard output, or the document in a file, or the
set of files in a directory, and nothing else. -/
structure Puts (arguments : Arguments) (generator : Generator) (text : Text) (before : FileTree)
    (output : Text) (after : FileTree) : Prop where
  printed : arguments.documentFile? = none → arguments.filesDirectory? = none → ∃ code,
    generator.document arguments.rootNaming (text.map CodePoint.toChar) = .ok code ∧
      output = RunStep.withLineFeed code ∧ after = before
  saved : ∀ path, arguments.documentFile? = some path → ∃ code,
    generator.document arguments.rootNaming (text.map CodePoint.toChar) = .ok code ∧
      output = [] ∧ before.Saved after (FilePath.ofText path) (RunStep.withLineFeed code)
  savedIn : ∀ directory, arguments.filesDirectory? = some directory → ∃ files,
    generator.fileSet arguments.rootNaming (text.map CodePoint.toChar) = .ok files ∧
      output = [] ∧ before.SavedIn after (FilePath.ofText directory) (RunStep.textsOf files)

theorem IsExclusive.documentFile?_eq_none {arguments : Arguments} (h : arguments.IsExclusive)
    {directory : Text} (hsplit : arguments.filesDirectory? = some directory) :
    arguments.documentFile? = none := by
  rcases h with h | h
  · rw [documentFile?, h, Option.filter_none]
  · rw [filesDirectory?, h, Option.filter_none] at hsplit
    cases hsplit

end Arguments

namespace RunStep

open Step

variable {generator : Generator} {arguments : Arguments} {text : Text} {s t : Session} {u : Unit}

theorem puts_of_run_runDocument (hs : s.output = []) (hsplit : arguments.filesDirectory? = none)
    (h : run (runDocument generator arguments text) s = (.ok u, t)) :
    arguments.Puts generator text s.files t.output t.files := by
  obtain ⟨code, between, hcode, hquiet, hput⟩ := exists_code_of_run_runDocument h
  have hbetween : between.output = [] := hquiet.output.trans hs
  have hnone : ∀ directory, arguments.filesDirectory? ≠ some directory := by simp [hsplit]
  cases hdocument : arguments.documentFile? with
  | some path =>
    rw [putDocument, ← Arguments.documentFile?, hdocument] at hput
    obtain ⟨_, written, hwrite, hprint⟩ := run_bind_eq_ok.mp hput
    have hprinted := (isQuiet_print _).of_run hprint
    obtain ⟨hencoded, place, hwrites⟩ := exists_writes_of_run_writeText hwrite
    have hkept : written.output = between.output := keepsOutput_writeText.of_run hwrite
    rw [hquiet.files] at hwrites
    refine ⟨fun hfile => ?_, fun path' hpath' => ?_, fun directory hd => absurd hd (hnone directory)⟩
    · rw [hdocument] at hfile
      cases hfile
    · rw [hdocument] at hpath'
      cases hpath'
      refine ⟨code, hcode, (hprinted.output.trans hkept).trans hbetween, ?_⟩
      rw [hprinted.files]
      exact hwrites.saved hencoded
  | none =>
    rw [putDocument, ← Arguments.documentFile?, hdocument] at hput
    cases hput
    refine ⟨fun _ _ => ⟨code, hcode, ?_, hquiet.files⟩, fun path hpath => ?_,
      fun directory hd => absurd hd (hnone directory)⟩
    · show between.output ++ withLineFeed code = withLineFeed code
      rw [hbetween, List.nil_append]
    · rw [hdocument] at hpath
      cases hpath

/-- **A run that does not fail has put out what the library generates.** -/
theorem puts_of_run_putCode (hs : s.output = []) (hexclusive : arguments.IsExclusive)
    (h : run (putCode generator arguments text) s = (.ok u, t)) :
    arguments.Puts generator text s.files t.output t.files := by
  cases hsplit : arguments.filesDirectory? with
  | some directory =>
    rw [putCode, ← Arguments.filesDirectory?, hsplit] at h
    obtain ⟨files, hset, houtput, hsaved⟩ := exists_files_of_run_runFileSet h
    have hfile := hexclusive.documentFile?_eq_none hsplit
    refine ⟨fun _ hnone => ?_, fun path hpath => ?_, fun directory' hd => ?_⟩
    · rw [hsplit] at hnone
      cases hnone
    · rw [hfile] at hpath
      cases hpath
    · rw [hsplit] at hd
      cases hd
      exact ⟨files, hset, houtput.trans hs, hsaved⟩
  | none =>
    rw [putCode, ← Arguments.filesDirectory?, hsplit] at h
    exact puts_of_run_runDocument hs hsplit h

end RunStep

end SampleTypes
