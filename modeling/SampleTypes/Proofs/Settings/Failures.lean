import SampleTypes.CommandLine.Run
import SampleTypes.Proofs.Files.Reading
import SampleTypes.Proofs.Json.Limits
import SampleTypes.Proofs.Settings.Loading

/-!
# How loading settings fails

A run reports why settings cannot be loaded, but there is no asking for a file whose path is too long, and
what the reader makes of a text is reported only if the text is malformed, not if it goes beyond a limit of
the reader. A report also quotes the value that cannot be used, for which there is no way beyond the same
limits. No such value comes from a file, only from the defaults and the user's own layer.

> **With values within limits around it, loading gives settings or an error that is reported, iff the
> path of the file is not too long and its text goes beyond no limit.**
-/

set_option autoImplicit false

namespace SampleTypes

/-! ## Errors -/

/-- The value that a fault quotes. -/
def SettingFault.value : SettingFault → Json
  | wrongKind _ value => value
  | customNotObject value => value

namespace SettingsError

/-- There is a wording for the error. A value that it quotes is spelled out digit by digit and part by
part, within the limits that the reader has. -/
def HasWording : SettingsError → Prop
  | setting fault => fault.value.FitsIn Json.nestingLimit
  | _ => True

/-- A run reports the error. -/
def IsReported (error : SettingsError) : Prop :=
  (RunFailure.setup (.settings error)).isReported = true ∧ error.HasWording

end SettingsError

namespace Settings

variable {defaults : SettingDefaults} {files : FileTree} {language : Text} {file : Option Text}
  {own layer upper lower : Layer} {path : FilePath} {fault : SettingFault}

/-- Loading ends with settings, or with an error that is reported. -/
def EndsWell (outcome : Except SettingsError Settings) : Prop :=
  (∃ settings, outcome = .ok settings) ∨ ∃ error, outcome = .error error ∧ error.IsReported

theorem endsWell_iff {outcome : Except SettingsError Settings} :
    EndsWell outcome ↔ ∀ error, outcome = .error error → error.IsReported := by
  cases outcome <;> simp [EndsWell]

/-! ## The values of layers -/

/-- All values of a layer are within the limits of the reader. -/
def Layer.IsQuotable (layer : Layer) : Prop := ∀ member ∈ layer, Json.FitsIn Json.nestingLimit member.2

theorem Layer.IsQuotable.over (hupper : upper.IsQuotable) (hlower : lower.IsQuotable) :
    (upper.over lower).IsQuotable := by
  intro member hmember
  rcases Json.mem_foldl_setMember hmember with h | h
  · exact hupper member h
  · exact hlower member h

/-- A fault quotes a value of the layer. -/
theorem exists_mem_of_ofLayer (h : ofLayer layer = .error fault) :
    ∃ key, (key, fault.value) ∈ layer := by
  rw [ofLayer, bind_eq_error_iff] at h
  rcases h with hcustom | ⟨custom, -, hrun⟩
  · rcases gatheredCustom_outcome layer with ⟨hok, -⟩ | ⟨value, herror, hfaulty⟩
    · cases hok.symm.trans hcustom
    · cases herror.symm.trans hcustom
      cases hfaulty with
      | customNotObject hvalue _ _ =>
        rw [Json.getMember?_eq_valueAt?] at hvalue
        exact ⟨customKey, mem_of_valueAt? hvalue⟩
  · obtain ⟨before, member, after, last, rfl, -, hmember⟩ := foldlM_eq_error_iff.mp hrun
    rcases applyMember_outcome last member with ⟨next, hok, -⟩ | ⟨key, hname, -, herror⟩
    · cases hok.symm.trans hmember
    · cases herror.symm.trans hmember
      exact ⟨member.1, List.mem_append_right _ List.mem_cons_self⟩

/-! ## The file -/

/-- What is not reported of a file: its path is too long, or its text goes beyond a limit of the reader. -/
inductive FileEscapes (files : FileTree) (path : FilePath) : Prop where
  | overlong (hlong : files.Overlong path)
  | beyondLimit {text : List Char} {refusal : Json.Refusal Json.Position}
      (hpresent : files.isPresent path = .ok true) (hjson : path.isJson = true)
      (htext : files.readText path = .ok text) (hread : Json.read .lenient text = .error refusal)
      (hlimit : refusal.IsLimit)

theorem Layer.ofFile_of_present (hpresent : files.isPresent path = .ok true)
    (hjson : path.isJson = true) {text : List Char} (htext : files.readText path = .ok text) :
    Layer.ofFile files path = Layer.ofFileText path text := by
  rw [Layer.ofFile, hpresent]
  simp [hjson, htext]

theorem Layer.ofFileText_of_isLimit {text : List Char} {refusal : Json.Refusal Json.Position}
    (hread : Json.read .lenient text = .error refusal) (hlimit : refusal.IsLimit) :
    Layer.ofFileText path text = .error (.beyondLimit refusal) := by
  rw [Layer.ofFileText, hread]
  cases hlimit <;> rfl

/-- A file that holds nothing but too many digits goes beyond the limit for their number, unless a zero
stands first. -/
theorem Layer.ofFile_of_digits {byte : UInt8} {bytes : List UInt8} (hjson : path.isJson = true)
    (hread : files.readBytes path = .ok (byte :: bytes)) (hzero : byte.toNat ≠ 48)
    (hdigits : ∀ b ∈ byte :: bytes, 48 ≤ b.toNat ∧ b.toNat ≤ 57)
    (hlong : Json.integerDigitLimit < (byte :: bytes).length) :
    Layer.ofFile files path = .error (.beyondLimit (.integerTooLong (byte :: bytes).length)) := by
  have hchar : ∀ n, 48 ≤ n → n ≤ 57 →
      (Char.ofNat n).isDigit = true ∧ (Char.ofNat n = '0' → n = 48) := by
    intro n hfirst hlast
    interval_cases n <;> decide
  have hall : ∀ c ∈ (byte :: bytes).map (fun b => Char.ofNat b.toNat), c.isDigit = true := by
    intro c hc
    obtain ⟨b, hb, rfl⟩ := List.mem_map.mp hc
    exact (hchar _ (hdigits b hb).1 (hdigits b hb).2).1
  have htext : files.readText path = .ok ((byte :: bytes).map fun b => Char.ofNat b.toNat) := by
    refine FileTree.readText_of_ascii hread ?_ ?_
    · intro b hb
      exact Nat.lt_of_le_of_lt (hdigits b hb).2 (by decide)
    · intro hmem
      exact absurd (hall _ hmem) (by decide)
  have hrefused : Json.read .lenient ((byte :: bytes).map fun b => Char.ofNat b.toNat) =
      .error (.integerTooLong (byte :: bytes).length) := by
    obtain ⟨hfirst, hlast⟩ := hdigits byte List.mem_cons_self
    have hlength : (Char.ofNat byte.toNat :: bytes.map fun b => Char.ofNat b.toNat).length =
        (byte :: bytes).length := by simp
    rw [List.map_cons, ← hlength]
    exact Json.read_digits (mt (hchar _ hfirst hlast).2 hzero) hall (hlength ▸ hlong)
  rw [Layer.ofFile_of_present (FileTree.isPresent_of_readBytes hread) hjson htext]
  exact Layer.ofFileText_of_isLimit hrefused (.integerTooLong hlong)

theorem Layer.isReported_of_ofFileText {text : List Char} {error : SettingsError}
    (h : Layer.ofFileText path text = .error error) :
    error.IsReported ∨ ∃ refusal, Json.read .lenient text = .error refusal ∧ refusal.IsLimit := by
  rcases Json.read_lenient_outcome text with ⟨value, hread, -⟩ | ⟨fault, position, hread⟩ | hlimit
  · left
    rw [Layer.ofFileText, hread] at h
    cases value <;> cases h <;> exact ⟨rfl, trivial⟩
  · left
    rw [Layer.ofFileText, hread] at h
    cases h
    exact ⟨rfl, trivial⟩
  · exact Or.inr hlimit

theorem Layer.fileEscapes_of_unreported {error : SettingsError}
    (herror : Layer.ofFile files path = .error error) (hunreported : ¬ error.IsReported) :
    FileEscapes files path := by
  unfold Layer.ofFile at herror
  split at herror
  · rename_i hpresent
    exact .overlong (FileTree.isPresent_eq_error_iff.mp hpresent).2
  · cases herror
    exact absurd ⟨rfl, trivial⟩ hunreported
  · rename_i hpresent
    split at herror
    · cases herror
      exact absurd ⟨rfl, trivial⟩ hunreported
    · rename_i hjson
      split at herror
      · cases herror
        exact absurd ⟨rfl, trivial⟩ hunreported
      · rename_i text htext
        obtain ⟨refusal, hread, hlimit⟩ :=
          (Layer.isReported_of_ofFileText herror).resolve_left hunreported
        exact .beyondLimit hpresent (by simpa using hjson) htext hread hlimit

theorem Layer.exists_unreported_iff :
    (∃ error, Layer.ofFile files path = .error error ∧ ¬ error.IsReported) ↔
      FileEscapes files path := by
  constructor
  · rintro ⟨error, herror, hunreported⟩
    exact Layer.fileEscapes_of_unreported herror hunreported
  · rintro (hlong | @⟨text, refusal, hpresent, hjson, htext, hread, hlimit⟩)
    · refine ⟨.unusablePath path .nameTooLong, ?_, fun h => Bool.false_ne_true h.1⟩
      unfold Layer.ofFile
      rw [FileTree.isPresent_eq_error_iff.mpr ⟨rfl, hlong⟩]
    · refine ⟨.beyondLimit refusal, ?_, fun h => Bool.false_ne_true h.1⟩
      rw [Layer.ofFile_of_present hpresent hjson htext, Layer.ofFileText_of_isLimit hread hlimit]

theorem Layer.isQuotable_of_ofFile (h : Layer.ofFile files path = .ok layer) : layer.IsQuotable := by
  obtain ⟨-, -, text, -, hread⟩ := Layer.ofFile_eq_ok_iff.mp h
  cases Json.fitsIn_of_read hread with
  | obj hmembers =>
    intro member hmember
    exact (hmembers member hmember).mono (by decide)

/-! ## Loading -/

/-- The path that is named, if one is. -/
def namedFile? (file : Option Text) : Option Text := file.filter fun path => !path.isEmpty

/-- The layer of the file that is named, if one is. -/
def fileLayer (files : FileTree) (file : Option Text) : Except SettingsError Layer :=
  match namedFile? file with
  | none => .ok []
  | some path => Layer.ofFile files (.ofText path)

theorem load_eq : load defaults files language file own =
    fileLayer files file >>= fun layer =>
      (defaults.settings language layer own).mapError .setting := by
  rcases file with _ | _ | ⟨c, path⟩
  · change load defaults files language none own = (defaults.settings language [] own).mapError _
    unfold load
    dsimp only [bind, Except.bind]
    cases defaults.settings language [] own <;> rfl
  · change load defaults files language (some []) own = (defaults.settings language [] own).mapError _
    unfold load
    dsimp only [bind, Except.bind]
    cases defaults.settings language [] own <;> rfl
  · change load defaults files language (some (c :: path)) own =
      Layer.ofFile files (.ofText (c :: path)) >>= _
    unfold load
    dsimp only [bind, Except.bind]
    cases Layer.ofFile files (.ofText (c :: path)) with
    | error error => rfl
    | ok layer =>
      dsimp only
      cases defaults.settings language layer own <;> rfl

theorem load_eq_error_iff {error : SettingsError} :
    load defaults files language file own = .error error ↔ fileLayer files file = .error error ∨
      ∃ layer fault, fileLayer files file = .ok layer ∧
        defaults.settings language layer own = .error fault ∧ error = .setting fault := by
  rw [load_eq, bind_eq_error_iff]
  refine or_congr_right (exists_congr fun layer => ?_)
  cases defaults.settings language layer own <;> simp [Except.mapError, eq_comm]

/-- What is not reported in loading settings: what is not of the file, and a fault that quotes a value
beyond the limits of the reader. -/
inductive Escapes (defaults : SettingDefaults) (files : FileTree) (language : Text)
    (file : Option Text) (own : Layer) : Prop where
  | file {path : Text} (hfile : namedFile? file = some path) (h : FileEscapes files (.ofText path))
  | quote {layer : Layer} {fault : SettingFault} (hlayer : fileLayer files file = .ok layer)
      (hfault : defaults.settings language layer own = .error fault)
      (hvalue : ¬ fault.value.FitsIn Json.nestingLimit)

theorem exists_unreported_fileLayer_iff :
    (∃ error, fileLayer files file = .error error ∧ ¬ error.IsReported) ↔
      ∃ path, namedFile? file = some path ∧ FileEscapes files (.ofText path) := by
  unfold fileLayer
  cases namedFile? file with
  | none => simp
  | some path => simp [Layer.exists_unreported_iff]

theorem Layer.isQuotable_nil : Layer.IsQuotable [] := by
  simp [Layer.IsQuotable]

theorem isQuotable_fileLayer (h : fileLayer files file = .ok layer) : layer.IsQuotable := by
  unfold fileLayer at h
  split at h
  · cases h
    exact Layer.isQuotable_nil
  · exact Layer.isQuotable_of_ofFile h

theorem isReported_setting_iff :
    (SettingsError.setting fault).IsReported ↔ fault.value.FitsIn Json.nestingLimit :=
  and_iff_right rfl

theorem endsWell_iff_not_escapes : EndsWell (load defaults files language file own) ↔
    ¬ Escapes defaults files language file own := by
  rw [endsWell_iff]
  simp only [load_eq_error_iff]
  constructor
  · rintro hreported (⟨hfile, h⟩ | ⟨hlayer, hfault, hvalue⟩)
    · obtain ⟨error, herror, hunreported⟩ := exists_unreported_fileLayer_iff.mpr ⟨_, hfile, h⟩
      exact hunreported (hreported error (Or.inl herror))
    · exact hvalue (isReported_setting_iff.mp
        (hreported _ (Or.inr ⟨_, _, hlayer, hfault, rfl⟩)))
  · rintro hescapes error (herror | ⟨layer, fault, hlayer, hfault, rfl⟩)
    · by_contra hunreported
      obtain ⟨path, hfile, h⟩ := exists_unreported_fileLayer_iff.mp ⟨error, herror, hunreported⟩
      exact hescapes (.file hfile h)
    · by_contra hunreported
      exact hescapes (.quote hlayer hfault (mt isReported_setting_iff.mpr hunreported))

theorem fitsIn_value (hdefaults : (defaults.layer language).IsQuotable) (hown : own.IsQuotable)
    (hlayer : layer.IsQuotable) (h : defaults.settings language layer own = .error fault) :
    fault.value.FitsIn Json.nestingLimit := by
  obtain ⟨key, hmem⟩ := exists_mem_of_ofLayer h
  exact hown.over (hlayer.over hdefaults) _ hmem

/-- **Loading ends with settings or with an error that is reported, iff nothing escapes:** no path that is
too long, no text beyond a limit of the reader, and no fault that quotes a value beyond one. If the values
of the defaults and of the user's own layer are within limits, only what is named as a file can escape. -/
theorem endsWell_load_iff (defaults : SettingDefaults) (files : FileTree) (language : Text)
    (file : Option Text) (own : Layer) :
    (EndsWell (load defaults files language file own) ↔
      ¬ Escapes defaults files language file own) ∧
    ((defaults.layer language).IsQuotable → own.IsQuotable →
      (EndsWell (load defaults files language file own) ↔
        ∀ path, namedFile? file = some path → ¬ FileEscapes files (.ofText path))) := by
  refine ⟨endsWell_iff_not_escapes, fun hdefaults hown => endsWell_iff_not_escapes.trans ?_⟩
  constructor
  · exact fun hescapes path hfile h => hescapes (.file hfile h)
  · rintro hfile (⟨hnamed, h⟩ | ⟨hlayer, hfault, hvalue⟩)
    · exact hfile _ hnamed h
    · exact hvalue (fitsIn_value hdefaults hown (isQuotable_fileLayer hlayer) hfault)

theorem isQuotable_builtin_java : (SettingDefaults.builtin.layer "java").IsQuotable := by
  have hlayer : SettingDefaults.builtin.layer "java" =
      [(SettingKey.packageName.name, .str "com.example.dto"), (SettingKey.indentSize.name, .int 2),
        (SettingKey.useLombok.name, .bool true), (SettingKey.jsonInclude.name, .str "NON_NULL")] :=
    rfl
  have hsize : (2 : Int).natAbs < 10 ^ Json.integerDigitLimit :=
    Nat.lt_of_lt_of_le (by decide : 2 < 10 ^ 1) (Nat.pow_le_pow_right (by decide) (by decide))
  rw [hlayer]
  simp only [Layer.IsQuotable, List.forall_mem_cons]
  exact ⟨.str, .int hsize, .bool, .str, by simp⟩

/-- A directory in place of a file is reported. -/
theorem endsWell_load_directory :
    let files : FileTree := ⟨[([("s.json" : Text)], .directory)]⟩
    ((SettingDefaults.builtin.layer "java").IsQuotable ∧ Layer.IsQuotable []) ∧
      EndsWell (load .builtin files "java" (some "s.json") []) := by
  intro files
  refine ⟨⟨isQuotable_builtin_java, Layer.isQuotable_nil⟩, ?_⟩
  refine ((endsWell_load_iff .builtin files "java" (some "s.json") []).2
    isQuotable_builtin_java Layer.isQuotable_nil).mpr ?_
  rintro path ⟨⟩ (hlong | ⟨-, -, htext, -, -⟩)
  · have hpresent : files.isPresent (.ofText "s.json") = .ok true := by cbv
    cases (FileTree.isPresent_eq_error_iff.mpr ⟨rfl, hlong⟩).symm.trans hpresent
  · have hdirectory : files.readText (.ofText "s.json") =
        .error (.file .isADirectory (.ofText "s.json")) := by cbv
    cases hdirectory.symm.trans htext

/-- An integer of too many digits makes loading fail in a way that is not reported. -/
theorem not_endsWell_load_digits :
    let files : FileTree := ⟨[([("s.json" : Text)], .file (List.replicate 4301 49))]⟩
    load .builtin files "java" (some "s.json") [] = .error (.beyondLimit (.integerTooLong 4301)) ∧
      ¬ EndsWell (load .builtin files "java" (some "s.json") []) := by
  intro files
  have hbytes : ∀ bytes, (FileTree.mk [([("s.json" : Text)], .file bytes)]).readBytes
      (.ofText "s.json") = .ok bytes := fun bytes => by cbv
  have hdigits : ∀ byte ∈ (49 : UInt8) :: List.replicate 4300 49,
      48 ≤ byte.toNat ∧ byte.toNat ≤ 57 := by
    intro byte hbyte
    rw [List.eq_of_mem_replicate (n := 4301) hbyte]
    decide
  have hlength : ((49 : UInt8) :: List.replicate 4300 49).length = 4301 :=
    congrArg (· + 1) List.length_replicate
  have hfile : Layer.ofFile files (.ofText "s.json") = .error (.beyondLimit (.integerTooLong 4301)) := by
    rw [← hlength]
    exact Layer.ofFile_of_digits (by decide) (hbytes _) (by decide) hdigits (by rw [hlength]; decide)
  have hload : load .builtin files "java" (some "s.json") [] =
      .error (.beyondLimit (.integerTooLong 4301)) := load_eq_error_iff.mpr (Or.inl hfile)
  exact ⟨hload, fun hends => Bool.false_ne_true (endsWell_iff.mp hends _ hload).1⟩

end Settings

end SampleTypes
