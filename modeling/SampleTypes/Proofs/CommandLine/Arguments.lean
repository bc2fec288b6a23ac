import SampleTypes.CommandLine.Arguments
import SampleTypes.Proofs.Lists

/-!
# What options do to each other

Most options set a field of their own and look at no other. Two facts about whole command lines follow by
going through them word by word: **asking for the schema to be shown changes nothing else in what is read**
(`read_cons_verbose`), and **a document and a directory for files are never both asked for**
(`isExclusive_of_read`).
-/

set_option autoImplicit false

namespace SampleTypes.Arguments

/-! ## Showing the schema -/

/-- The arguments with the schema shown. -/
def verbosely (arguments : Arguments) : Arguments := { arguments with verbose := true }

theorem takeFlag_verbosely (arguments : Arguments) (option : CommandOption) :
    takeFlag arguments.verbosely option = (takeFlag arguments option).map verbosely := by
  cases option <;> rfl

theorem takeValued_verbosely (arguments : Arguments) (option : CommandOption) (value : Option Text) :
    takeValued arguments.verbosely option value =
      (takeValued arguments option value).map verbosely := by
  cases option with
  | timeout =>
    rw [takeValued, takeValued]
    cases value.mapM (integerValue .timeout) <;> rfl
  | indent =>
    rw [takeValued, takeValued]
    cases value.mapM (integerValue .indent) <;> rfl
  | output =>
    rw [takeValued, takeValued]
    cases hother : arguments.split.isSome <;> simp [verbosely, hother, Except.map]
  | split =>
    rw [takeValued, takeValued]
    cases hother : arguments.output.isSome <;> simp [verbosely, hother, Except.map]
  | _ => rfl

namespace Progress

/-- What was read, with the schema shown. -/
def verbosely (progress : Progress) : Progress :=
  { progress with arguments := progress.arguments.verbosely }

variable (progress : Progress)

theorem takeOperand_verbosely (t : Text) :
    progress.verbosely.takeOperand t = (progress.takeOperand t).verbosely := by
  rw [takeOperand, takeOperand, show progress.verbosely.needsFile = progress.needsFile from rfl]
  split_ifs <;> rfl

theorem takeFlags_verbosely (options : List CommandOption) :
    progress.verbosely.takeFlags options = (progress.takeFlags options).map verbosely := by
  have hfold : ∀ arguments : Arguments, options.foldlM takeFlag arguments.verbosely =
      (options.foldlM takeFlag arguments).map Arguments.verbosely := by
    induction options with
    | nil => intro arguments; rfl
    | cons option options ih =>
      intro arguments
      rw [List.foldlM_cons, List.foldlM_cons, takeFlag_verbosely]
      cases takeFlag arguments option with
      | error interruption => rfl
      | ok arguments => exact ih arguments
  rw [takeFlags, takeFlags, verbosely, hfold]
  cases options.foldlM takeFlag progress.arguments <;> rfl

theorem takeLast_verbosely (options : List CommandOption) (last : CommandOption)
    (value : Option Text) :
    progress.verbosely.takeLast options last value =
      (progress.takeLast options last value).map verbosely := by
  rw [takeLast, takeLast, takeFlags_verbosely]
  cases progress.takeFlags options with
  | error interruption => rfl
  | ok progress =>
    have hvalued := takeValued_verbosely progress.arguments last value
    change takeValued progress.arguments.verbosely last value >>= _ =
      (takeValued progress.arguments last value >>= _).map verbosely
    rw [hvalued]
    cases takeValued progress.arguments last value <;> rfl

end Progress

theorem readWords_verbosely (progress : Progress) (words : List Word) :
    readWords progress.verbosely words = (readWords progress words).map Progress.verbosely := by
  -- The words decide which case it is, and whether the file is still to come; neither depends on the flag.
  fun_induction readWords progress words with
  | case1 => rfl
  | case2 progress t words hneeds ih =>
    rw [readWords, if_pos (by exact hneeds), Progress.takeOperand_verbosely, ih]
  | case3 progress t words hneeds ih =>
    rw [readWords, if_neg (by exact hneeds)]
    exact ih
  | case4 progress t words hnext ih =>
    rw [readWords.eq_3 _ _ _ hnext, Progress.takeOperand_verbosely, ih]
  | case5 progress words ih =>
    rw [readWords, ← ih, show progress.verbosely.needsFile = progress.needsFile from rfl]
    split_ifs <;> rfl
  | case6 progress t words ih =>
    rw [readWords]
    exact ih
  | case7 progress option isShort attached words interruption hread =>
    rw [readWords, hread]
    rfl
  | case8 progress option isShort attached options last hread value words ih =>
    rw [readWords, hread]
    change progress.verbosely.takeLast options last (some value) >>= _ = _
    rw [Progress.takeLast_verbosely]
    cases progress.takeLast options last (some value) with
    | error interruption => rfl
    | ok progress => exact ih progress
  | case9 progress option isShort attached words options last hread hnext =>
    rw [readWords, hread]
    rcases words with _ | ⟨_ | _ | _ | _, words⟩
    case cons.operand value => exact absurd rfl (hnext value words)
    all_goals rfl
  | case10 progress option isShort attached words options last value hread ih =>
    rw [readWords, hread]
    change progress.verbosely.takeLast options last (keptValue value) >>= _ = _
    rw [Progress.takeLast_verbosely]
    cases progress.takeLast options last (keptValue value) with
    | error interruption => rfl
    | ok progress => exact ih progress
  | case11 progress option isShort attached words options hread ih =>
    rw [readWords, hread]
    change progress.verbosely.takeFlags options >>= _ = _
    rw [Progress.takeFlags_verbosely]
    cases progress.takeFlags options with
    | error interruption => rfl
    | ok progress => exact ih progress

/-- **Asking for the schema to be shown, first of all, changes nothing else in what is read**, whether the
rest is understood or not. -/
theorem read_cons_verbose (argv : List Text) :
    read ("--verbose" :: argv) = (read argv).map verbosely := by
  have hclassify : classify "--verbose" = .ok (.option .verbose false none) := by decide
  have hall : classifyAll ("--verbose" :: argv) =
      (classifyAll argv).map (.option .verbose false none :: ·) := by
    rw [classifyAll, if_neg (by decide), hclassify]
    cases classifyAll argv <;> rfl
  rw [read, read, hall]
  cases classifyAll argv with
  | error error => rfl
  | ok words =>
    have hread : readWords {} (.option .verbose false none :: words) =
        (readWords {} words).map Progress.verbosely := readWords_verbosely {} words
    change (readWords {} (.option .verbose false none :: words) >>= _) =
      (readWords {} words >>= _).map verbosely
    rw [hread]
    cases readWords {} words with
    | error interruption => rfl
    | ok progress =>
      change (if progress.leftOver.isEmpty then _ else _) =
        (if progress.leftOver.isEmpty then _ else _ : Except _ _).map verbosely
      split_ifs <;> rfl

/-! ## Options that exclude each other -/

/-- A document and a directory for files are not both asked for. -/
def IsExclusive (arguments : Arguments) : Prop := arguments.output = none ∨ arguments.split = none

theorem IsExclusive.takeFlag {arguments arguments' : Arguments} (h : arguments.IsExclusive)
    {option : CommandOption} (htake : takeFlag arguments option = .ok arguments') :
    arguments'.IsExclusive := by
  cases option <;> cases htake <;> exact h

theorem IsExclusive.takeValued {arguments arguments' : Arguments} (h : arguments.IsExclusive)
    {option : CommandOption} {value : Option Text}
    (htake : takeValued arguments option value = .ok arguments') : arguments'.IsExclusive := by
  cases option with
  | output =>
    rw [Arguments.takeValued] at htake
    split_ifs at htake with hsplit
    cases htake
    exact .inr (by simpa using hsplit)
  | split =>
    rw [Arguments.takeValued] at htake
    split_ifs at htake with houtput
    cases htake
    exact .inl (by simpa using houtput)
  | timeout =>
    obtain ⟨_, _, hlast⟩ := bind_eq_ok_iff.mp htake
    cases hlast
    exact h
  | indent =>
    obtain ⟨_, _, hlast⟩ := bind_eq_ok_iff.mp htake
    cases hlast
    exact h
  | _ => cases htake; exact h

namespace Progress

variable {progress progress' : Progress}

theorem isExclusive_takeOperand (h : progress.arguments.IsExclusive) (t : Text) :
    (progress.takeOperand t).arguments.IsExclusive := by
  rw [takeOperand]
  split_ifs <;> exact h

theorem isExclusive_takeFlags (h : progress.arguments.IsExclusive) {options : List CommandOption}
    (htake : progress.takeFlags options = .ok progress') : progress'.arguments.IsExclusive := by
  have hfold : ∀ arguments arguments' : Arguments, arguments.IsExclusive →
      options.foldlM takeFlag arguments = .ok arguments' → arguments'.IsExclusive := by
    clear htake
    induction options with
    | nil =>
      intro arguments arguments' h hfold
      cases hfold
      exact h
    | cons option options ih =>
      intro arguments arguments' h hfold
      rw [List.foldlM_cons, bind_eq_ok_iff] at hfold
      obtain ⟨next, hnext, hrest⟩ := hfold
      exact ih next arguments' (h.takeFlag hnext) hrest
  obtain ⟨arguments, hflags, hlast⟩ := bind_eq_ok_iff.mp htake
  cases hlast
  exact hfold _ _ h hflags

theorem isExclusive_takeLast (h : progress.arguments.IsExclusive) {options : List CommandOption}
    {last : CommandOption} {value : Option Text}
    (htake : progress.takeLast options last value = .ok progress') :
    progress'.arguments.IsExclusive := by
  obtain ⟨between, hflags, htake⟩ := bind_eq_ok_iff.mp htake
  obtain ⟨arguments, hvalued, hlast⟩ := bind_eq_ok_iff.mp htake
  cases hlast
  exact (isExclusive_takeFlags h hflags).takeValued hvalued

end Progress

theorem isExclusive_readWords {progress progress' : Progress} (h : progress.arguments.IsExclusive)
    {words : List Word} (hread : readWords progress words = .ok progress') :
    progress'.arguments.IsExclusive := by
  fun_induction readWords progress words with
  | case1 progress => cases hread; exact h
  | case2 progress t words _ ih => exact ih (Progress.isExclusive_takeOperand h t) hread
  | case3 progress t words _ ih => exact ih h hread
  | case4 progress t words _ ih => exact ih (Progress.isExclusive_takeOperand h t) hread
  | case5 progress words ih => exact ih (by split_ifs <;> exact h) hread
  | case6 progress t words ih => exact ih h hread
  | case7 => cases hread
  | case8 progress option isShort attached options last _ value words ih =>
    obtain ⟨next, hnext, hrest⟩ := bind_eq_ok_iff.mp hread
    exact ih next (Progress.isExclusive_takeLast h hnext) hrest
  | case9 => cases hread
  | case10 progress option isShort attached words options last value _ ih =>
    obtain ⟨next, hnext, hrest⟩ := bind_eq_ok_iff.mp hread
    exact ih next (Progress.isExclusive_takeLast h hnext) hrest
  | case11 progress option isShort attached words options _ ih =>
    obtain ⟨next, hnext, hrest⟩ := bind_eq_ok_iff.mp hread
    exact ih next (Progress.isExclusive_takeFlags h hnext) hrest

/-- **A document and a directory for files are never both asked for.** -/
theorem isExclusive_of_read {argv : List Text} {arguments : Arguments}
    (h : read argv = .ok arguments) : arguments.IsExclusive := by
  rw [read] at h
  split at h
  · cases h
  · obtain ⟨progress, hread, hlast⟩ := bind_eq_ok_iff.mp h
    split_ifs at hlast
    cases hlast
    exact isExclusive_readWords (.inl rfl) hread

end SampleTypes.Arguments
