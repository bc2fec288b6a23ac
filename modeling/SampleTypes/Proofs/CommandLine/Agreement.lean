import SampleTypes.Proofs.CommandLine.Output

/-!
# What a run of the command line comes to

Seen from outside a run is its status, standard output and the files (`RunOutcome.effect`). For
arguments that ask for code all of it is decided when the code has been put out (`effect_run`): what is
shown afterwards cannot fail and puts nothing out. The statement about whole command lines follows:

> **a run that succeeds has put out what the library generates, a run that fails has left nothing
> behind unless the system refused to write, and showing the schema changes neither.**
-/

set_option autoImplicit false

namespace SampleTypes

/-- Arguments that ask for code in a language there is a target for, and not for information. -/
structure Arguments.AsksForCode (arguments : Arguments) (wanted : Text) : Prop where
  listLanguages : arguments.listLanguages = false
  language : arguments.language = some wanted
  supported : Registry.builtin.supports wanted = true

/-- What a run does to its surroundings: how it ends, the text on standard output, and the files. -/
def RunOutcome.effect (outcome : RunOutcome) : RunEnding × Text × FileTree :=
  (outcome.ending, outcome.output, outcome.files)

namespace RunStep

open Step

variable {surroundings : Surroundings} {arguments : Arguments} {wanted text : Text}
  {generator : Generator} {s t : Session} {u : Unit}

/-! ## From the sample to the code -/

theorem exists_schema_of_run_putCode (h : run (putCode generator arguments text) s = (.ok u, t)) :
    ∃ schema, generator.schema arguments.rootNaming (text.map CodePoint.toChar) = .ok schema := by
  rw [putCode] at h
  split at h
  · obtain ⟨schema, _, hinfer, _⟩ := run_bind_eq_ok.mp h
    exact ⟨schema, schema_of_run_inferSchema hinfer⟩
  · obtain ⟨schema, _, hinfer, _⟩ := run_bind_eq_ok.mp h
    exact ⟨schema, schema_of_run_inferSchema hinfer⟩

/-- Code that was produced comes from the generator and the sample that the arguments name. -/
theorem exists_of_run_produce
    (h : run (produce surroundings arguments wanted) s = (.ok (generator, text), t)) :
    ∃ loaded between, arguments.generator s.files wanted = .ok generator ∧
      (Loading.run { surroundings with files := s.files } arguments.sampleSource).result = .ok loaded ∧
      loaded.text = text ∧ s.Quiet between ∧
      run (putCode generator arguments text) between = (.ok ⟨⟩, t) := by
  obtain ⟨generator', s₁, hmake, h⟩ := run_bind_eq_ok.mp h
  obtain ⟨loaded, s₂, hload, h⟩ := run_bind_eq_ok.mp h
  obtain ⟨_, s₃, hlog, h⟩ := run_bind_eq_ok.mp h
  obtain ⟨⟨⟩, s₄, hput, h⟩ := run_bind_eq_ok.mp h
  cases h
  have hmade : s.Quiet s₁ := (isQuiet_makeGenerator _ _).of_run hmake
  have hloaded : s₁.Quiet s₂ := (isQuiet_loadSample _ _).of_run hload
  have hlogged : s₂.Quiet s₃ := (isQuiet_log _).of_run hlog
  have hresult := result_of_run_loadSample hload
  rw [hmade.files] at hresult
  exact ⟨loaded, s₃, generator_of_run_makeGenerator hmake, hresult, rfl,
    (hmade.trans _ _ _ hloaded).trans _ _ _ hlogged, hput⟩

/-- After the code nothing can fail any more, and nothing is put out. -/
theorem exists_run_generate
    (h : run (produce surroundings arguments wanted) s = (.ok (generator, text), t)) :
    ∃ v, run (generate surroundings arguments wanted) s = (.ok ⟨⟩, v) ∧ t.Quiet v := by
  obtain ⟨_, _, _, _, _, _, hput⟩ := exists_of_run_produce h
  obtain ⟨schema, hschema⟩ := exists_schema_of_run_putCode hput
  rw [generate, run_bind_of_ok h]
  dsimp only
  split_ifs
  · obtain ⟨⟨⟩, v, hshow⟩ := succeeds_showSchema hschema t
    exact ⟨v, hshow, (isQuiet_showSchema _ _ _).of_run hshow⟩
  · exact ⟨t, rfl, Session.Quiet.refl t⟩

theorem run_perform (h : arguments.AsksForCode wanted) (s : Session) :
    run (perform surroundings arguments) s =
      run (generate surroundings arguments wanted >>= fun _ => pure 0) s := by
  rw [perform, h.listLanguages, h.language]
  simp only [Bool.false_eq_true, if_false, h.supported, Bool.not_true]

theorem run_report_of_isReported_eq_false {failure : RunFailure} (h : failure.isReported = false)
    (s : Session) : run (report failure) s = (.error failure, s) := by
  rw [report, if_pos (by simp [h])]
  rfl

end RunStep

/-! ## Whole runs -/

open RunStep

variable {surroundings : Surroundings} {argv : List Text} {arguments : Arguments} {wanted : Text}

theorem Arguments.run_eq (threshold : Int) : arguments.run surroundings threshold =
    match Step.run (tryCatch (perform surroundings arguments) report) { files := surroundings.files } with
    | (.ok code, session) => session.outcome threshold (.status code)
    | (.error failure, session) => session.outcome threshold (.failure failure) := rfl

/-- **The effect of a run is decided when the code has been put out.** -/
theorem Arguments.effect_run (h : arguments.AsksForCode wanted) (threshold : Int) :
    (arguments.run surroundings threshold).effect =
      match Step.run (produce surroundings arguments wanted) { files := surroundings.files } with
      | (.ok _, t) => (.status 0, t.output, t.files)
      | (.error failure, t) =>
        (if failure.isReported then .status 1 else .failure failure, t.output, t.files) := by
  rw [Arguments.run_eq, Step.run_tryCatch, run_perform h]
  rcases hproduce : Step.run (produce surroundings arguments wanted) { files := surroundings.files }
    with ⟨failure | ⟨generator, text⟩, t⟩
  · have hgenerate : Step.run (generate surroundings arguments wanted)
        { files := surroundings.files } = (.error failure, t) := Step.run_bind_of_error hproduce
    rw [Step.run_bind_of_error hgenerate]
    dsimp only
    cases hreported : failure.isReported with
    | true =>
      obtain ⟨v, hreport⟩ := run_report hreported t
      have hquiet : t.Quiet v := (isQuiet_report failure).of_run hreport
      rw [hreport, ← hquiet.output, ← hquiet.files]
      rfl
    | false =>
      rw [run_report_of_isReported_eq_false hreported]
      rfl
  · obtain ⟨v, hgenerate, hquiet⟩ := exists_run_generate hproduce
    rw [Step.run_bind_of_ok hgenerate, Step.run_pure]
    dsimp only
    rw [← hquiet.output, ← hquiet.files]
    rfl

/-- Whether the schema is shown makes no difference to the code. -/
theorem produce_verbosely (surroundings : Surroundings) (arguments : Arguments) (wanted : Text) :
    produce surroundings arguments.verbosely wanted = produce surroundings arguments wanted := rfl

theorem runCommandLine_of_read (hread : Arguments.read argv = .ok arguments) :
    runCommandLine surroundings argv =
      match arguments.logLevel with
      | none => .ofEnding surroundings.files (.failure .droppedLogLevel)
      | some level =>
        match LogLevel.threshold? level with
        | none => .ofEnding surroundings.files (.usage (.unknownLogLevel level))
        | some threshold => arguments.run surroundings threshold := by
  unfold runCommandLine
  generalize Arguments.read argv = read at hread
  subst hread
  rfl

/-- A run has a status only if it gets as far as its stages. -/
theorem exists_threshold_of_status (hread : Arguments.read argv = .ok arguments) {code : Nat}
    (h : (runCommandLine surroundings argv).ending = .status code) :
    ∃ threshold, runCommandLine surroundings argv = arguments.run surroundings threshold := by
  rw [runCommandLine_of_read hread] at h ⊢
  split at h
  · cases h
  · split at h
    · cases h
    · exact ⟨_, rfl⟩

/-- A run that succeeds has put out what was asked for. -/
theorem Arguments.puts_of_status (hasks : arguments.AsksForCode wanted)
    (hexclusive : arguments.IsExclusive) {threshold : Int}
    (h : (arguments.run surroundings threshold).ending = .status 0) : ∃ generator loaded,
      arguments.generator surroundings.files wanted = .ok generator ∧
        (Loading.run surroundings arguments.sampleSource).result = .ok loaded ∧
        arguments.Puts generator loaded.text surroundings.files
          (arguments.run surroundings threshold).output (arguments.run surroundings threshold).files := by
  have heffect : (arguments.run surroundings threshold).effect = _ :=
    Arguments.effect_run hasks threshold
  rcases hproduce : Step.run (produce surroundings arguments wanted) { files := surroundings.files }
    with ⟨failure | ⟨generator, text⟩, t⟩ <;> rw [hproduce] at heffect
  · obtain ⟨hending, _⟩ := Prod.mk.inj heffect
    rw [h] at hending
    split_ifs at hending
    cases hending
  · obtain ⟨_, heffect⟩ := Prod.mk.inj heffect
    obtain ⟨houtput, hfiles⟩ := Prod.mk.inj heffect
    obtain ⟨loaded, between, hgenerator, hresult, rfl, hquiet, hput⟩ := exists_of_run_produce hproduce
    refine ⟨generator, loaded, hgenerator, hresult, ?_⟩
    have hputs := puts_of_run_putCode hquiet.output hexclusive hput
    rwa [hquiet.files, ← houtput, ← hfiles] at hputs

/-- A run that ends with status 1 has left nothing behind, unless the system refused to write. -/
theorem Arguments.aborted_of_status (hasks : arguments.AsksForCode wanted) {threshold : Int}
    (h : (arguments.run surroundings threshold).ending = .status 1) :
    (arguments.run surroundings threshold).output = [] ∧
      ((arguments.run surroundings threshold).files = surroundings.files ∨ ∃ failure t,
        Step.run (perform surroundings arguments) { files := surroundings.files } =
          (.error failure, t) ∧ failure.isWriteFailure = true) := by
  have heffect : (arguments.run surroundings threshold).effect = _ :=
    Arguments.effect_run hasks threshold
  rcases hproduce : Step.run (produce surroundings arguments wanted) { files := surroundings.files }
    with ⟨failure | ⟨generator, text⟩, t⟩ <;> rw [hproduce] at heffect
  · obtain ⟨hending, heffect⟩ := Prod.mk.inj heffect
    obtain ⟨houtput, hfiles⟩ := Prod.mk.inj heffect
    have hreported : failure.isReported = true := by
      by_contra hnot
      rw [h, if_neg hnot] at hending
      cases hending
    have hperform : Step.run (perform surroundings arguments) { files := surroundings.files } =
        (.error failure, t) := by
      rw [run_perform hasks]
      exact Step.run_bind_of_error (Step.run_bind_of_error hproduce)
    have haborted := aborts_produce surroundings arguments wanted _ _ _ hproduce
    refine ⟨houtput.trans haborted.output, haborted.files.imp hfiles.trans fun hlate => ?_⟩
    exact ⟨failure, t, hperform, hlate hreported⟩
  · obtain ⟨hending, _⟩ := Prod.mk.inj heffect
    rw [h] at hending
    cases hending

/-- Standard input with a list of numbers, and no files. -/
def numbersOnInput : Surroundings := { input := "[1, 2]" }

/-- A command line that asks for a set of files. -/
def splitCommand : List Text := ["--language", "TS", "--split", "models"]

/-- What is read from it. -/
def splitArguments : Arguments := { language := some "TS", split := some "models" }

end SampleTypes
