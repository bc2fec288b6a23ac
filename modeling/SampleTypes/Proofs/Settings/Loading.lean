import Mathlib
import SampleTypes.Proofs.Settings.Layers

/-!
# Settings that are loaded

A settings file is a layer like any other once it is read, and one that holds each key once
(`Settings.Layer.hasDistinctKeys_of_ofFile`). So what loading settings comes to is what the layers come
to, with the file between the defaults and the user's own layer.
-/

set_option autoImplicit false

namespace SampleTypes.Settings

variable {defaults : SettingDefaults} {files : FileTree} {language : Text} {file own : Layer}

/-! ## The file -/

theorem Layer.ofFileText_eq_ok_iff {path : FilePath} {text : List Char} :
    Layer.ofFileText path text = .ok file ↔ Json.read .lenient text = .ok (.obj file) := by
  cases hread : Json.read .lenient text with
  | error refusal => cases refusal <;> simp [Layer.ofFileText, hread]
  | ok value => cases value <;> simp [Layer.ofFileText, hread]

/-- A layer is in a file iff the file is there, is named as a JSON file, and holds an object. -/
theorem Layer.ofFile_eq_ok_iff {path : FilePath} : Layer.ofFile files path = .ok file ↔
    files.isPresent path = .ok true ∧ path.isJson = true ∧
      ∃ text, files.readText path = .ok text ∧ Json.read .lenient text = .ok (.obj file) := by
  rw [Layer.ofFile]
  rcases files.isPresent path with fault | (_ | _)
  · simp
  · simp
  · cases path.isJson with
    | false => simp
    | true => cases files.readText path <;> simp [Layer.ofFileText_eq_ok_iff]

theorem Layer.hasDistinctKeys_of_ofFile {path : FilePath} (h : Layer.ofFile files path = .ok file) :
    file.HasDistinctKeys := by
  obtain ⟨-, -, text, -, hread⟩ := Layer.ofFile_eq_ok_iff.mp h
  exact Json.holdsKeysOnce_of_read hread

/-! ## Loading -/

theorem load_none (defaults : SettingDefaults) (files : FileTree) (language : Text) (own : Layer) :
    load defaults files language none own =
      (ofLayer (own.over (defaults.layer language))).mapError .setting := by
  unfold load
  dsimp only [bind, Except.bind, SettingDefaults.settings, Layer.nil_over]
  cases ofLayer (own.over (defaults.layer language)) <;> rfl

theorem load_file {path : Text} (hfile : Layer.ofFile files (.ofText path) = .ok file) :
    load defaults files language (some path) own =
      (ofLayer (own.over (file.over (defaults.layer language)))).mapError .setting := by
  cases path with
  | nil => exact absurd (Layer.ofFile_eq_ok_iff.mp hfile).2.1 (by decide)
  | cons c path =>
    unfold load
    dsimp only [bind, Except.bind]
    rw [hfile]
    dsimp only [SettingDefaults.settings]
    cases ofLayer (own.over (file.over (defaults.layer language))) <;> rfl

/-- The value of a key in the last layer that has it, when a file and the user's own layer lie over the
defaults of a language. -/
abbrev lastValue? (defaults : SettingDefaults) (language : Text) (file own : Layer) :
    Text → Option Json :=
  Layer.lastValue? [defaults.layer language, file, own]

/-- **Layers of settings compose.** A file comes to the same as its members laid under the user's own
beforehand, settings or error alike. Loading fails iff the value that the last layer has for some key
cannot be used, and reports such a value; otherwise each setting has the value of the last layer, or its
default, and the custom settings are those gathered by the last layer that gathers any, with the values of
all names that no target knows over them. -/
theorem load_layers {path : Text} (hfile : Layer.ofFile files (.ofText path) = .ok file)
    (hdefaults : (defaults.layer language).HasDistinctKeys) (hown : own.HasDistinctKeys) :
    load defaults files language (some path) own =
        load defaults files language none (own.over file) ∧
      ((∃ error, load defaults files language (some path) own = .error error) ↔
        ∃ fault, Faulty (lastValue? defaults language file own) fault) ∧
      (∀ error, load defaults files language (some path) own = .error error →
        ∃ fault, error = .setting fault ∧ Faulty (lastValue? defaults language file own) fault) ∧
      ∀ settings, load defaults files language (some path) own = .ok settings →
        Under { custom := membersIn (lastValue? defaults language file own customKey) }
          (lastValue? defaults language file own) settings := by
  have hdistinct := Layer.hasDistinctKeys_of_ofFile hfile
  have hvalue : ∀ key, Json.getMember? key (own.over (file.over (defaults.layer language))) =
      lastValue? defaults language file own key := Layer.getMember?_over_over hdistinct hown _
  refine ⟨by rw [load_file hfile, load_none, Layer.over_over own hdistinct], ?_⟩
  rw [load_file hfile]
  rcases ofLayer_outcome ((hdefaults.over file).over own) with
    ⟨settings, hsettings, hunder, hfaultless⟩ | ⟨fault, herror, hfaulty⟩
  · rw [hsettings]
    simp only [hvalue] at hunder hfaultless
    refine ⟨⟨nofun, fun ⟨fault, hfault⟩ => absurd hfault (hfaultless fault)⟩, nofun, ?_⟩
    rintro _ ⟨⟩
    exact hunder
  · rw [herror]
    simp only [hvalue] at hfaulty
    refine ⟨⟨fun _ => ⟨fault, hfaulty⟩, fun _ => ⟨_, rfl⟩⟩, ?_, nofun⟩
    rintro _ ⟨⟩
    exact ⟨fault, rfl, hfaulty⟩

/-- A truth value is no size, but one in a file that the user's own layer replaces does no harm. -/
theorem load_layers_of_replaced :
    let files : FileTree := ⟨[([("s.json" : Text)], .file
      [123, 34, 105, 110, 100, 101, 110, 116, 95, 115, 105, 122, 101, 34, 58, 116, 114, 117, 101,
        125])]⟩
    let file : Layer := [(SettingKey.indentSize.name, .bool true)]
    let own : Layer := [(SettingKey.indentSize.name, .int 4)]
    Layer.ofFile files (.ofText "s.json") = .ok file ∧
      ((SettingDefaults.builtin.layer "java").HasDistinctKeys ∧ own.HasDistinctKeys) ∧
        ∃ settings, load .builtin files "java" (some "s.json") own = .ok settings ∧
          settings.value .indentSize = .int 4 := by
  intro files file own
  have hfile : Layer.ofFile files (.ofText "s.json") = .ok file :=
    Layer.ofFile_eq_ok_iff.mpr
      ⟨by cbv, by decide, "\x7b\"indent_size\":true\x7d".toList, by cbv, by cbv⟩
  have hdefaults : (SettingDefaults.builtin.layer "java").HasDistinctKeys := by decide
  have hown : own.HasDistinctKeys := by decide
  refine ⟨hfile, ⟨hdefaults, hown⟩, ?_⟩
  obtain ⟨hsame, -, -, hsettings⟩ := load_layers hfile hdefaults hown
  obtain ⟨settings, hload⟩ : ∃ settings,
      load .builtin files "java" none (own.over file) = .ok settings := ⟨_, rfl⟩
  refine ⟨settings, hsame.trans hload, ?_⟩
  rw [(hsettings settings (hsame.trans hload)).known]
  rfl

end SampleTypes.Settings
