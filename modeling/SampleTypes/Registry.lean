import SampleTypes.Generation.Code
import SampleTypes.Settings.Source
import SampleTypes.Text.Order
/-!
# The registry of languages

A registry knows languages by a primary name and any number of aliases. Names are compared in lower
case. A primary name wins over an alias of the same name, and an alias belongs to one language at a
time. A registration either takes place as a whole or leaves the registry as it was.
-/

set_option autoImplicit false

namespace SampleTypes

inductive Offer where
  | target (target : Target)
  /-- Something else, by its description. -/
  | other (description : Text)
deriving DecidableEq, Repr

/-- Why the registry refused. -/
inductive RegistryError where
  | notATarget (description : Text)
  | aliasIsLanguage (name : Text)
  | aliasTaken (name language : Text)
  | unknownLanguage (name : Text) (available : List Text)
  /-- Settings are given as something that cannot hold them; `kind` says as what. -/
  | invalidSettings (kind : Text)
deriving DecidableEq, Repr

def RegistryError.message : RegistryError → Text
  | notATarget description => description ++ (" is not a CodeGenerator subclass" : Text)
  | aliasIsLanguage name =>
    ("Alias '" : Text) ++ name ++ ("' conflicts with existing primary language" : Text)
  | aliasTaken name language =>
    ("Alias '" : Text) ++ name ++ ("' already points to '" : Text) ++ language ++ ("'" : Text)
  | unknownLanguage name available =>
    ("No generator registered for language: " : Text) ++ name ++ (". Available: " : Text)
      ++ Text.join ", " available
  | invalidSettings kind => ("Invalid config type: " : Text) ++ kind

/-- Languages by name. -/
structure Registry where
  /-- The primary names with their targets, each name once. -/
  targets : List (Text × Target) := []
  /-- The aliases with the primary names they stand for, each alias once. -/
  aliases : List (Text × Text) := []
deriving DecidableEq, Repr

/-- Sets the value of a key: in place if the key is there already, at the end otherwise. -/
def setValue {α : Type} (key : Text) (value : α) : List (Text × α) → List (Text × α)
  | [] => [(key, value)]
  | (k, v) :: rest => if k = key then (k, value) :: rest else (k, v) :: setValue key value rest

def valueAt? {α : Type} (key : Text) : List (Text × α) → Option α
  | [] => none
  | (k, v) :: rest => if k = key then some v else valueAt? key rest

namespace Registry

/-- The primary names in order. -/
def languages (registry : Registry) : List Text := Text.sorted (registry.targets.map (·.1))

def isPrimary (registry : Registry) (name : Text) : Bool := (valueAt? name registry.targets).isSome

/-! ## Registrations -/

/-- A request to register something as the target of a language. -/
structure Registration where
  language : Text
  offer : Offer
  aliases : List Text := []
  /-- Whether it replaces what is there. -/
  replacing : Bool := false
deriving DecidableEq, Repr

namespace Registration

def primary (registration : Registration) : Text := registration.language.lowerCase

/-- The aliases that are added: those named, in lower case, without the primary name. -/
def newAliases (registration : Registration) : List Text :=
  (registration.aliases.map Text.lowerCase).filter (· != registration.primary)

end Registration

/-- A step of a registration: it goes on, or is refused. What it changed before stays changed. -/
abbrev Step := ExceptT RegistryError (StateM Registry)

/-- Refuses an alias that is the primary name of a language, or belongs to another one. -/
def checkAlias (primary name : Text) : Step Unit := do
  let registry ← get
  if registry.isPrimary name then throw (.aliasIsLanguage name)
  -- A name that is no alias yet clashes with nothing.
  let language := (valueAt? name registry.aliases).getD primary
  if language != primary then throw (.aliasTaken name language)

def setTarget (primary : Text) (target : Target) (registry : Registry) : Registry :=
  { registry with targets := setValue primary target registry.targets }

/-- Makes names aliases of a language. -/
def setAliases (primary : Text) (names : List Text) (registry : Registry) : Registry :=
  { registry with
    aliases := names.foldl (fun known name => setValue name primary known) registry.aliases }

/-- Registers a target. A language that is there already is kept as it is, unless the registration
replaces what is there; then no alias is refused either. -/
def register (registration : Registration) : Step Unit := do
  match registration.offer with
  | .other description => throw (.notATarget description)
  | .target target =>
    let primary := registration.primary
    if (← get).isPrimary primary && !registration.replacing then return
    if !registration.replacing then
      -- In order, so that of several clashes the same one is reported however the aliases are listed.
      (Text.sorted registration.newAliases).forM (checkAlias primary)
    -- An alias that has the primary name is left where it is: from now on the primary name wins.
    modify (setTarget primary target)
    modify (setAliases primary registration.newAliases)

/-- The registry after a registration, whether it was refused or not. -/
def after (registry : Registry) (registration : Registration) : Registry :=
  ((register registration).run.run registry).2

/-- The registry that registrations make of an empty one. -/
def ofRegistrations (registrations : List Registration) : Registry := registrations.foldl after {}

/-! ## Look-ups -/

/-- The primary name of the language that a name or an alias selects. -/
def resolve (registry : Registry) (name : Text) : Except RegistryError Text :=
  let key := name.lowerCase
  if registry.isPrimary key then .ok key
  else
    match valueAt? key registry.aliases with
    | some primary => .ok primary
    | none => .error (.unknownLanguage name registry.languages)

/-- Whether a name or an alias selects a language. -/
def supports (registry : Registry) (name : Text) : Bool :=
  let key := name.lowerCase
  registry.isPrimary key || (valueAt? key registry.aliases).isSome

/-- The aliases of a language, in order. The language is given by its primary name. -/
def aliasesOf (registry : Registry) (language : Text) : List Text :=
  let primary := language.lowerCase
  Text.sorted ((registry.aliases.filter fun entry => entry.2 == primary).map (·.1))

/-- The registry of the languages that are built in. -/
def builtin : Registry :=
  ofRegistrations
    [{ language := Target.typescript.name, offer := .target .typescript, aliases := ["ts"] },
     { language := Target.java.name, offer := .target .java }]

end Registry

/-! ## Generators by language -/

/-- How the settings of a generator are given. -/
inductive SettingsSource where
  /-- The defaults of the language. -/
  | defaults
  /-- A layer over the defaults. -/
  | layer (layer : Settings.Layer)
  /-- A file over the defaults, by its path. -/
  | file (path : Text)
  /-- Settings as they are. -/
  | ready (settings : Settings)
  /-- Something that cannot hold settings; `kind` says what. -/
  | other (kind : Text)

/-- Why no generator could be made. -/
inductive SetupError where
  | registry (error : RegistryError)
  | noTarget (primary : Text)
  | settings (error : SettingsError)

def SetupError.message : SetupError → Text
  | registry error => error.message
  | noTarget primary => primary.quoted
  | settings error => error.message

/-- What there is to know about a language. -/
structure LanguageInfo where
  target : Target
  aliases : List Text
deriving DecidableEq, Repr

namespace Registry

def targetUnder (registry : Registry) (primary : Text) : Except SetupError Target :=
  match valueAt? primary registry.targets with
  | some target => .ok target
  | none => .error (.noTarget primary)

/-- The primary name of the language that a name or an alias selects. -/
def primaryOf (registry : Registry) (name : Text) : Except SetupError Text :=
  match registry.resolve name with
  | .ok primary => .ok primary
  | .error error => .error (.registry error)

/-- The target of the language that a name or an alias selects. -/
def targetOf (registry : Registry) (name : Text) : Except SetupError Target := do
  registry.targetUnder (← registry.primaryOf name)

def settingsOf (files : FileTree) (language : Text) : SettingsSource → Except SetupError Settings
  | .ready settings => .ok settings
  | .defaults => load none []
  | .layer layer => load none layer
  | .file path => load (some path) []
  | .other kind => .error (.registry (.invalidSettings kind))
where
  /-- The settings over the built-in defaults of the language. -/
  load (file : Option Text) (layer : Settings.Layer) : Except SetupError Settings :=
    match Settings.load .builtin files language file layer with
    | .ok settings => .ok settings
    | .error error => .error (.settings error)

/-- A generator for the language that a name selects. -/
def generator (registry : Registry) (files : FileTree) (name : Text) (source : SettingsSource) :
    Except SetupError Generator := do
  let primary ← registry.primaryOf name
  let target ← registry.targetUnder primary
  return ⟨target, ← settingsOf files primary source⟩

/-- What there is to know about the language that a name selects. -/
def info (registry : Registry) (name : Text) : Except SetupError LanguageInfo := do
  let primary ← registry.primaryOf name
  -- The defaults are built in, so no file is looked at.
  let generator ← registry.generator {} primary .defaults
  return ⟨generator.target, registry.aliasesOf primary⟩

end Registry

end SampleTypes
