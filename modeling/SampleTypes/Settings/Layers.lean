import SampleTypes.Settings.Basic
import SampleTypes.Json.Spelling
import SampleTypes.Text.UpperCase
/-!
# Layers of settings

Settings are laid over each other as members of JSON objects: the defaults of the target, a file, and
what the user chose for this run. A later layer replaces the value of a key and adds keys of its own.
Only the outcome is checked, so a value of the wrong kind that a later layer replaces does no harm.
-/

set_option autoImplicit false

namespace SampleTypes

/-- A setting that some target knows. -/
inductive SettingKey where
  | packageName
  | indentSize
  | useTabs
  | exportDeclarations
  | useLombok
  | jsonInclude
deriving DecidableEq, Repr

namespace SettingKey

def all : List SettingKey :=
  [packageName, indentSize, useTabs, exportDeclarations, useLombok, jsonInclude]

/-- How the key is written. -/
def name : SettingKey → Text
  | packageName => "package_name"
  | indentSize => "indent_size"
  | useTabs => "use_tabs"
  | exportDeclarations => "export_declarations"
  | useLombok => "use_lombok"
  | jsonInclude => "json_include"

/-- The kinds of value that the setting takes. -/
def kinds : SettingKey → Text
  | packageName => "str"
  | indentSize => "int"
  | useTabs | exportDeclarations | useLombok => "bool"
  | jsonInclude => "str or null"

/-- The key that is written in this way. -/
def ofText? (t : Text) : Option SettingKey := all.find? fun key => key.name == t

end SettingKey

/-- The key under which settings that no target knows may be gathered. -/
def customKey : Text := "custom"

/-- A value that cannot be used as a setting. -/
inductive SettingFault where
  | wrongKind (key : SettingKey) (value : Json)
  | customNotObject (value : Json)

def SettingFault.message : SettingFault → Text
  | wrongKind key value =>
    ("Setting '" : Text) ++ key.name ++ ("' must be " : Text) ++ key.kinds ++ (", got " : Text)
      ++ value.spelling
  | customNotObject value => ("Setting 'custom' must be dict, got " : Text) ++ value.spelling

namespace Settings

/-- A layer of settings: keys with their values. -/
abbrev Layer := List (Text × Json)

/-- The layer `upper` over the layer `lower`. -/
def Layer.over (upper lower : Layer) : Layer :=
  upper.foldl (fun members pair => Json.setMember pair.1 pair.2 members) lower

/-- Sets a known setting. A policy is kept in upper case. -/
def set (settings : Settings) (key : SettingKey) (value : Json) : Except SettingFault Settings :=
  match key, value with
  | .packageName, .str name => .ok { settings with packageName := name }
  -- A truth value is no integer, and is refused.
  | .indentSize, .int size => .ok { settings with indentSize := size }
  | .useTabs, .bool b => .ok { settings with useTabs := b }
  | .exportDeclarations, .bool b => .ok { settings with exportDeclarations := b }
  | .useLombok, .bool b => .ok { settings with useLombok := b }
  | .jsonInclude, .str policy => .ok { settings with jsonInclude := some policy.upperCase }
  | .jsonInclude, .null => .ok { settings with jsonInclude := none }
  | key, value => .error (.wrongKind key value)

/-- Applies one member of a layer; one that no target knows joins the custom settings. -/
def applyMember (settings : Settings) (member : Text × Json) : Except SettingFault Settings :=
  if member.1 = customKey then .ok settings
  else
    match SettingKey.ofText? member.1 with
    | some key => settings.set key member.2
    | none => .ok { settings with custom := Json.setMember member.1 member.2 settings.custom }

/-- The custom settings that a layer gathers under one key. What counts as false gathers none. -/
def gatheredCustom (layer : Layer) : Except SettingFault (List (Text × Json)) :=
  match Json.getMember? customKey layer with
  | some (.obj members) => .ok members
  | some value => if value.isTruthy then .error (.customNotObject value) else .ok []
  | none => .ok []

/-- The settings that a layer gives, with the default for each that it does not have. -/
def ofLayer (layer : Layer) : Except SettingFault Settings := do
  -- The gathered settings come first wherever they stand, so that a member of the layer that no target
  -- knows replaces the one of its name among them.
  layer.foldlM applyMember { custom := ← gatheredCustom layer }

end Settings

/-- The default layers of languages, in the order in which they are listed. -/
structure SettingDefaults where
  /-- The languages with their layers, each language once. -/
  layers : List (Text × Settings.Layer)

namespace SettingDefaults

/-- The defaults of the languages that are built in. -/
def builtin : SettingDefaults where
  layers :=
    [("typescript",
      [(SettingKey.indentSize.name, .int 2), (SettingKey.exportDeclarations.name, .bool true)]),
     ("java",
      [(SettingKey.packageName.name, .str "com.example.dto"), (SettingKey.indentSize.name, .int 2),
       (SettingKey.useLombok.name, .bool true), (SettingKey.jsonInclude.name, .str "NON_NULL")])]

def languages (defaults : SettingDefaults) : List Text := defaults.layers.map (·.1)

/-- The default layer of a language; one without defaults starts from nothing. -/
def layer (defaults : SettingDefaults) (language : Text) : Settings.Layer :=
  match defaults.layers.find? fun entry => entry.1 == language with
  | some entry => entry.2
  | none => []

def settings (defaults : SettingDefaults) (language : Text) (file own : Settings.Layer) :
    Except SettingFault Settings :=
  Settings.ofLayer (own.over (file.over (defaults.layer language)))

end SettingDefaults

end SampleTypes
