import SampleTypes.CommandLine.Run
import SampleTypes.Proofs.Console.Markup
import SampleTypes.Proofs.Files.Tree
import SampleTypes.Proofs.Generation.Outcome
import SampleTypes.Proofs.Lists
import SampleTypes.Proofs.Steps

/-!
# The stages of a run

The stages of a run in which nothing is put out come first: they change neither standard output nor the
files (`RunStep.IsQuiet`). A failure of theirs leaves no trace; one of the stages after them is a failure
to write, or none that the program reports (`RunFailure.IsLate`). What a stage comes to if it succeeds is
what the library gives.
-/

set_option autoImplicit false

namespace SampleTypes

/-! ## What is put out -/

/-- Nothing was put out between two sessions. -/
structure Session.Quiet (s t : Session) : Prop where
  output : t.output = s.output
  files : t.files = s.files

namespace Session.Quiet

variable {s t u : Session}

theorem refl (s : Session) : Quiet s s := ⟨rfl, rfl⟩

theorem trans (s t u : Session) (h : Quiet s t) (h' : Quiet t u) : Quiet s u :=
  ⟨h'.output.trans h.output, h'.files.trans h.files⟩

end Session.Quiet

namespace RunStep

open Step

variable {α β ε : Type} {x : RunStep α} {f : α → RunStep β} {s t : Session} {e : RunFailure}

/-- A step that puts nothing out. -/
abbrev IsQuiet (x : RunStep α) : Prop := Keeps Session.Quiet x

namespace IsQuiet

theorem bind (hx : IsQuiet x) (hf : ∀ a, IsQuiet (f a)) : IsQuiet (x >>= f) :=
  Keeps.bind Session.Quiet.trans hx hf

theorem forM {γ : Type} {g : γ → RunStep PUnit} {cs : List γ} (hg : ∀ c ∈ cs, IsQuiet (g c)) :
    IsQuiet (cs.forM g) :=
  Keeps.forM Session.Quiet.trans Session.Quiet.refl hg

theorem pure (a : α) : IsQuiet (pure a : RunStep α) := Keeps.pure Session.Quiet.refl a

theorem throw (e : RunFailure) : IsQuiet (throw e : RunStep α) := Keeps.throw Session.Quiet.refl e

theorem get : IsQuiet (get : RunStep Session) := Keeps.get Session.Quiet.refl

end IsQuiet

/-! ## Results -/

theorem run_ofExcept (failure : ε → RunFailure) (r : Except ε α) (s : Session) :
    run (ofExcept failure r) s = (r.mapError failure, s) := by
  cases r <;> rfl

theorem run_ofExcept_eq_ok {failure : ε → RunFailure} {r : Except ε α} {a : α} :
    run (ofExcept failure r) s = (.ok a, t) ↔ r = .ok a ∧ s = t := by
  rw [run_ofExcept]
  cases r <;> simp [Except.mapError]

theorem run_ofExcept_eq_error {failure : ε → RunFailure} {r : Except ε α} :
    run (ofExcept failure r) s = (.error e, t) ↔ ∃ fault, r = .error fault ∧ failure fault = e ∧ s = t := by
  rw [run_ofExcept]
  cases r <;> simp [Except.mapError]

theorem isQuiet_ofExcept (failure : ε → RunFailure) (r : Except ε α) :
    IsQuiet (ofExcept failure r) := by
  cases r with
  | ok a => exact IsQuiet.pure a
  | error fault => exact IsQuiet.throw (failure fault)

theorem isQuiet_display (output : ConsoleOutput) : IsQuiet (display output) :=
  Keeps.modify fun _ => ⟨rfl, rfl⟩

theorem isQuiet_log (records : List LogRecord) : IsQuiet (log records) :=
  Keeps.modify fun _ => ⟨rfl, rfl⟩

theorem isQuiet_print (text : Text) : IsQuiet (print text) :=
  (isQuiet_ofExcept _ _).bind fun output => isQuiet_display output

theorem isQuiet_warnOf (settings : Settings) (language : Text) : IsQuiet (warnOf settings language) :=
  IsQuiet.forM fun _ _ => isQuiet_print _

theorem isQuiet_makeGenerator (arguments : Arguments) (wanted : Text) :
    IsQuiet (makeGenerator arguments wanted) := by
  have hsettings : IsQuiet (loadSettings arguments wanted) :=
    (isQuiet_ofExcept _ _).bind fun language => IsQuiet.get.bind fun _ =>
      (isQuiet_ofExcept _ _).bind fun settings =>
        (isQuiet_warnOf settings language).bind fun _ => IsQuiet.pure settings
  exact hsettings.bind fun _ => IsQuiet.get.bind fun _ => isQuiet_ofExcept _ _

theorem isQuiet_loadSample (surroundings : Surroundings) (arguments : Arguments) :
    IsQuiet (loadSample surroundings arguments) :=
  IsQuiet.get.bind fun _ => (isQuiet_log _).bind fun _ =>
    IsQuiet.bind (Keeps.modify fun _ => ⟨rfl, rfl⟩) fun _ => isQuiet_ofExcept _ _

theorem isQuiet_inferSchema (generator : Generator) (naming : RootNaming) (text : Text) :
    IsQuiet (inferSchema generator naming text) :=
  (isQuiet_ofExcept _ _).bind fun schema => (isQuiet_log _).bind fun _ => IsQuiet.pure schema

theorem isQuiet_showSchema (generator : Generator) (arguments : Arguments) (text : Text) :
    IsQuiet (showSchema generator arguments text) := by
  refine (isQuiet_inferSchema generator _ text).bind fun schema => ?_
  refine (isQuiet_display _).bind fun _ => (isQuiet_display _).bind fun _ => ?_
  refine IsQuiet.bind (IsQuiet.forM fun _ _ => isQuiet_print _) fun _ => ?_
  dsimp only
  split_ifs
  · exact (isQuiet_print _).bind fun _ =>
      IsQuiet.bind (IsQuiet.forM fun _ _ => isQuiet_print _) fun _ => isQuiet_display _
  · exact IsQuiet.pure _

theorem isQuiet_report (failure : RunFailure) : IsQuiet (report failure) := by
  have hshown : IsQuiet (do
      log [.error (("Code generation failed: " : Text) ++ failure.message)]
      print (("[red]✗[/red] " : Text) ++ Markup.escape failure.message)
      return 1 : RunStep Nat) :=
    (isQuiet_log _).bind fun _ => (isQuiet_print _).bind fun _ => IsQuiet.pure 1
  rw [report]
  split_ifs
  · exact (IsQuiet.throw failure).bind fun _ => hshown
  · exact hshown

/-! ## Stages that put nothing out -/

end RunStep

/-- The generator that arguments ask for, as the library makes it: with the settings of the language,
over them those of the settings file, and over them those of the arguments. -/
def Arguments.generator (arguments : Arguments) (files : FileTree) (wanted : Text) :
    Except SetupError Generator := do
  let language ← Registry.builtin.primaryOf wanted
  let settings ← (Settings.load .builtin files language arguments.settingsFile arguments.layer).mapError
    .settings
  Registry.builtin.generator files wanted (.ready settings)

namespace RunStep

open Step

variable {arguments : Arguments} {wanted text : Text} {generator : Generator} {naming : RootNaming}
  {s t : Session}

theorem generator_of_run_makeGenerator
    (h : run (makeGenerator arguments wanted) s = (.ok generator, t)) :
    arguments.generator s.files wanted = .ok generator := by
  obtain ⟨settings, between, hload, h⟩ := run_bind_eq_ok.mp h
  obtain ⟨language, _, hrun, hload⟩ := run_bind_eq_ok.mp hload
  obtain ⟨hlanguage, rfl⟩ := run_ofExcept_eq_ok.mp hrun
  rw [run_get_bind] at hload
  obtain ⟨settings', _, hrun, hload⟩ := run_bind_eq_ok.mp hload
  obtain ⟨hsettings, rfl⟩ := run_ofExcept_eq_ok.mp hrun
  obtain ⟨_, _, _, hload⟩ := run_bind_eq_ok.mp hload
  cases hload
  rw [run_get_bind] at h
  obtain ⟨hgenerator, _⟩ := run_ofExcept_eq_ok.mp h
  simp only [Arguments.generator, hlanguage, hsettings, Except.mapError, bind, Except.bind]
  -- Settings that are given as they are need no files.
  exact hgenerator

theorem result_of_run_loadSample {surroundings : Surroundings} {loaded : Loaded}
    (h : run (loadSample surroundings arguments) s = (.ok loaded, t)) :
    (Loading.run { surroundings with files := s.files } arguments.sampleSource).result =
      .ok loaded := by
  rw [loadSample, run_get_bind] at h
  obtain ⟨_, _, _, h⟩ := run_bind_eq_ok.mp h
  rw [run_modify_bind] at h
  exact (run_ofExcept_eq_ok.mp h).1

theorem run_inferSchema {schema : Schema}
    (h : generator.schema naming (text.map CodePoint.toChar) = .ok schema) (s : Session) :
    ∃ t, run (inferSchema generator naming text) s = (.ok schema, t) := by
  rw [inferSchema, h]
  exact ⟨_, rfl⟩

theorem schema_of_run_inferSchema {schema : Schema}
    (h : run (inferSchema generator naming text) s = (.ok schema, t)) :
    generator.schema naming (text.map CodePoint.toChar) = .ok schema := by
  obtain ⟨_, _, hrun, h⟩ := run_bind_eq_ok.mp h
  cases h
  exact (run_ofExcept_eq_ok.mp hrun).1

/-! ## Showing -/

theorem succeeds_print {text : Text} (h : Markup.Showable [] text) : Succeeds (print text) := by
  obtain ⟨shown, hshown⟩ := Markup.exists_plain h
  intro s
  rw [print, ConsoleOutput.marked, hshown]
  exact ⟨_, _, rfl⟩

theorem unmarked_of_isName {name : Text} (h : Text.IsName name) :
    ∀ c ∈ name, c ≠ Markup.opening ∧ c ≠ Markup.backslash := by
  intro c hc
  constructor
  · rintro rfl
    exact h.notMem (by decide) hc
  · rintro rfl
    exact h.notMem (by decide) hc

theorem showable_cycle {source target : Text} (hsource : Text.IsName source)
    (htarget : Text.IsName target) :
    Markup.Showable [] (("[dim]↻ cycle " : Text) ++ source ++ (" -> " : Text) ++ target
      ++ (" not used for ordering[/dim]" : Text)) := by
  have hline : ("[dim]↻ cycle " : Text) ++ source ++ (" -> " : Text) ++ target
      ++ (" not used for ordering[/dim]" : Text) =
      ("[dim]" : Text) ++ ((("↻ cycle " : Text) ++ source ++ (" -> " : Text) ++ target
        ++ (" not used for ordering" : Text)) ++ (("[/dim]" : Text) ++ [])) := by
    rw [show ("[dim]↻ cycle " : Text) = ("[dim]" : Text) ++ ("↻ cycle " : Text) from rfl,
      show (" not used for ordering[/dim]" : Text) =
        (" not used for ordering" : Text) ++ ("[/dim]" : Text) from rfl]
    simp only [List.append_assoc, List.append_nil]
  rw [hline]
  refine Markup.encloses_dim.showable ?_ .nil
  simp only [List.forall_mem_append]
  exact ⟨⟨⟨⟨by decide, unmarked_of_isName hsource⟩, by decide⟩, unmarked_of_isName htarget⟩,
    by decide⟩

theorem showable_warning (message : Text) :
    Markup.Showable [] (("  [yellow]•[/yellow] " : Text) ++ Markup.escape message) := by
  have hline : ("  [yellow]•[/yellow] " : Text) ++ Markup.escape message = ("  " : Text) ++
      (("[yellow]" : Text) ++ (("•" : Text) ++ (("[/yellow]" : Text) ++
        ((" " : Text) ++ Markup.escape message)))) := rfl
  rw [hline]
  refine .unmarked (Markup.encloses_yellow.showable (by decide) ?_) (by decide)
  exact (Markup.showable_escape [] message).unmarked (by decide)

theorem showable_failure (message : Text) :
    Markup.Showable [] (("[red]✗[/red] " : Text) ++ Markup.escape message) := by
  have hline : ("[red]✗[/red] " : Text) ++ Markup.escape message = ("[red]" : Text) ++
      (("✗" : Text) ++ (("[/red]" : Text) ++ ((" " : Text) ++ Markup.escape message))) := rfl
  rw [hline]
  exact Markup.encloses_red.showable (by decide)
    ((Markup.showable_escape [] message).unmarked (by decide))

theorem showable_warningsTitle : Markup.Showable [] ("\n[yellow]⚠️  Warnings:[/yellow]" : Text) := by
  have hline : ("\n[yellow]⚠️  Warnings:[/yellow]" : Text) = ("\n" : Text) ++
      (("[yellow]" : Text) ++ (("⚠️  Warnings:" : Text) ++ (("[/yellow]" : Text) ++ []))) := rfl
  rw [hline]
  exact .unmarked (Markup.encloses_yellow.showable (by decide) .nil) (by decide)

/-- The schema that was inferred once is inferred again, and none of the lines about it can fail to be
shown: the names are unmarked, and the warnings, which hold keys, are escaped. -/
theorem succeeds_showSchema {schema : Schema}
    (h : generator.schema arguments.rootNaming (text.map CodePoint.toChar) = .ok schema) :
    Succeeds (showSchema generator arguments text) := by
  intro s
  obtain ⟨t, ht⟩ := run_inferSchema h s
  obtain ⟨_, value, _, rfl⟩ := Generator.exists_value_of_schema h
  have hskipped := isName_of_mem_skipped generator arguments.suffix arguments.rootName value
  rw [showSchema, run_bind_of_ok ht]
  refine Succeeds.bind (.modify _) (fun _ => .bind (.modify _) fun _ => .bind (.forM ?_) fun _ => ?_) t
  · intro e he
    exact succeeds_print (showable_cycle (hskipped e he).1 (hskipped e he).2)
  dsimp only
  split_ifs
  · exact .bind (succeeds_print showable_warningsTitle) fun _ =>
      .bind (.forM fun _ _ => succeeds_print (showable_warning _)) fun _ => .modify _
  · exact .pure _

/-- A failure that the program reports ends the run with status 1. -/
theorem run_report {failure : RunFailure} (h : failure.isReported = true) (s : Session) :
    ∃ t, run (report failure) s = (.ok 1, t) := by
  have hprint := succeeds_print (showable_failure failure.message)
  rw [report, if_neg (by simp [h])]
  beta_reduce
  rw [log, run_modify_bind]
  exact hprint.run_bind_pure 1 _

end RunStep

end SampleTypes
