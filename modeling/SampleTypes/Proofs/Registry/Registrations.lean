import SampleTypes.Proofs.Steps
import SampleTypes.Proofs.Text.LowerCase
import SampleTypes.Proofs.Values

/-!
# What registrations make of a registry

A registry is made by registrations, some of which are refused and some ignored. Whatever they were,

> **an alias stands for a language that is there**, so what a registry supports it resolves, and what
> it resolves it has a target for; and a registration is taken as a whole or not at all.

All of it rests on what one registration can do (`Registry.Effect`). Aliases are set only after the
target, and nothing is set before all aliases are looked at, so there is no registry in between.
-/

set_option autoImplicit false

namespace SampleTypes

namespace Registry

/-! ## Setting -/

section Setting

variable (registry : Registry) (primary name : Text) (target : Target) (names : List Text)

@[simp]
theorem isPrimary_setTarget : (registry.setTarget primary target).isPrimary name =
    (decide (name = primary) || registry.isPrimary name) := by
  rw [isPrimary, setTarget, valueAt?_setValue, isPrimary]
  split <;> simp_all

@[simp]
theorem aliases_setTarget : (registry.setTarget primary target).aliases = registry.aliases := rfl

@[simp]
theorem isPrimary_setAliases :
    (registry.setAliases primary names).isPrimary name = registry.isPrimary name := rfl

@[simp]
theorem valueAt?_setAliases : valueAt? name (registry.setAliases primary names).aliases =
    if name ∈ names then some primary else valueAt? name registry.aliases := by
  rw [setAliases]
  induction names generalizing registry with
  | nil => simp
  | cons first names ih =>
    have hrest := ih { registry with aliases := setValue first primary registry.aliases }
    rw [List.foldl_cons, hrest, valueAt?_setValue]
    by_cases hfirst : name = first <;> simp [hfirst]

theorem mem_setAliases {entry : Text × Text}
    (h : entry ∈ (registry.setAliases primary names).aliases) :
    entry.1 ∈ names ∧ entry.2 = primary ∨ entry ∈ registry.aliases := by
  rw [setAliases] at h
  induction names generalizing registry with
  | nil => exact Or.inr h
  | cons first names ih =>
    rcases ih { registry with aliases := setValue first primary registry.aliases } h with h | h
    · exact Or.inl ⟨List.mem_cons_of_mem _ h.1, h.2⟩
    · rcases mem_setValue h with rfl | h
      · exact Or.inl ⟨List.mem_cons_self, rfl⟩
      · exact Or.inr h

theorem nodup_keys_setAliases (hkeys : (registry.aliases.map (·.1)).Nodup) :
    ((registry.setAliases primary names).aliases.map (·.1)).Nodup := by
  rw [setAliases]
  induction names generalizing registry with
  | nil => exact hkeys
  | cons first names ih =>
    exact ih { registry with aliases := setValue first primary registry.aliases }
      (nodup_keys_setValue hkeys)

end Setting

/-! ## What a registration can do -/

/-- A name that may become an alias of a language: no primary name, and no alias of another one. -/
def IsFree (registry : Registry) (primary name : Text) : Prop :=
  registry.isPrimary name = false ∧
    ∀ language, valueAt? name registry.aliases = some language → language = primary

/-- Looking at an alias changes nothing, and lets through only what is free. -/
theorem run_checkAlias (registry : Registry) (primary name : Text) :
    (∃ error, Step.run (checkAlias primary name) registry = (.error error, registry)) ∨
      Step.run (checkAlias primary name) registry = (.ok (), registry) ∧
        registry.IsFree primary name := by
  rw [checkAlias, Step.run_bind_of_ok (Step.run_get registry)]
  cases hprimary : registry.isPrimary name with
  | true => exact Or.inl ⟨_, rfl⟩
  | false =>
    cases halias : valueAt? name registry.aliases with
    | none =>
      refine Or.inr ⟨?_, hprimary, by simp [halias]⟩
      simp
    | some language =>
      by_cases hsame : language = primary
      · refine Or.inr ⟨?_, hprimary, by simp [halias, hsame]⟩
        simp [hsame]
      · refine Or.inl ⟨.aliasTaken name language, ?_⟩
        simp [hsame]

theorem run_checkAliases (registry : Registry) (primary : Text) (names : List Text) :
    (∃ error, Step.run (names.forM (checkAlias primary)) registry = (.error error, registry)) ∨
      Step.run (names.forM (checkAlias primary)) registry = (.ok (), registry) ∧
        ∀ name ∈ names, registry.IsFree primary name := by
  induction names with
  | nil => exact Or.inr ⟨rfl, by simp⟩
  | cons name names ih =>
    show (∃ error, Step.run (checkAlias primary name >>= fun _ => names.forM (checkAlias primary))
      registry = (.error error, registry)) ∨ Step.run (checkAlias primary name >>= fun _ =>
        names.forM (checkAlias primary)) registry = (.ok (), registry) ∧ _
    rcases run_checkAlias registry primary name with ⟨error, hrun⟩ | ⟨hrun, hfree⟩
    · exact Or.inl ⟨error, Step.run_bind_of_error hrun⟩
    · rw [Step.run_bind_of_ok hrun]
      rcases ih with ⟨error, hrest⟩ | ⟨hrest, hall⟩
      · exact Or.inl ⟨error, hrest⟩
      · exact Or.inr ⟨hrest, List.forall_mem_cons.mpr ⟨hfree, hall⟩⟩

/-- What a registration can come to, and the registry after it. -/
inductive Effect (registry : Registry) (registration : Registration) :
    Except RegistryError Unit → Registry → Prop where
  /-- It is refused, and changes nothing. -/
  | refused (error : RegistryError) : Effect registry registration (.error error) registry
  /-- The language is there already, and is not replaced. -/
  | ignored (hthere : registry.isPrimary registration.primary = true)
      (hkept : registration.replacing = false) : Effect registry registration (.ok ()) registry
  /-- It is taken, with its target and all its aliases. -/
  | taken (target : Target) (hoffer : registration.offer = .target target)
      (hfree : registration.replacing = false →
        registry.isPrimary registration.primary = false ∧
          ∀ name ∈ registration.newAliases, registry.IsFree registration.primary name) :
      Effect registry registration (.ok ())
        ((registry.setTarget registration.primary target).setAliases registration.primary
          registration.newAliases)

theorem effect_register (registry : Registry) (registration : Registration) :
    Effect registry registration (Step.run (register registration) registry).1
      (registry.after registration) := by
  show Effect registry registration (Step.run (register registration) registry).1
    (Step.run (register registration) registry).2
  rw [register]
  cases hoffer : registration.offer with
  | other description => exact .refused _
  | target target =>
    have hsets : Step.run (do
        modify (setTarget registration.primary target)
        modify (setAliases registration.primary registration.newAliases) : Step Unit) registry =
      (.ok (), (registry.setTarget registration.primary target).setAliases registration.primary
        registration.newAliases) := rfl
    dsimp only
    rw [Step.run_bind_of_ok (Step.run_get registry)]
    cases hreplacing : registration.replacing with
    | true =>
      simp only [Bool.not_true, Bool.and_false, Bool.false_eq_true, if_false]
      rw [hsets]
      exact .taken target hoffer (by simp [hreplacing])
    | false =>
      cases hthere : registry.isPrimary registration.primary with
      | true => exact .ignored hthere hreplacing
      | false =>
        simp only [Bool.not_false, Bool.and_true, Bool.false_eq_true, if_false, if_true]
        rcases run_checkAliases registry registration.primary
          (Text.sorted registration.newAliases) with ⟨error, hrun⟩ | ⟨hrun, hfree⟩
        · rw [Step.run_bind_of_error hrun]
          exact .refused error
        · rw [Step.run_bind_of_ok hrun, hsets]
          refine .taken target hoffer fun _ => ⟨hthere, fun name hname => hfree name ?_⟩
          rw [Text.sorted, List.mem_mergeSort]
          exact hname

/-- A registration changes nothing or sets its target and its aliases. -/
theorem after_eq (registry : Registry) (registration : Registration) :
    registry.after registration = registry ∨ ∃ target, registry.after registration =
      (registry.setTarget registration.primary target).setAliases registration.primary
        registration.newAliases := by
  have heffect := effect_register registry registration
  generalize (Step.run (register registration) registry).1 = result at heffect
  generalize registry.after registration = next at heffect ⊢
  cases heffect with
  | refused error => exact Or.inl rfl
  | ignored hthere hkept => exact Or.inl rfl
  | taken target hoffer hfree => exact Or.inr ⟨target, rfl⟩

/-! ## Registries that registrations made -/

/-- What holds of every registry that registrations made. -/
structure Sound (registry : Registry) : Prop where
  /-- No alias is listed twice. -/
  nodup : (registry.aliases.map (·.1)).Nodup
  /-- An alias stands for a language that is there. -/
  owned : ∀ entry ∈ registry.aliases, registry.isPrimary entry.2 = true
  /-- Primary names are in lower case. -/
  lowerPrimary : ∀ name, registry.isPrimary name = true → name.lowerCase = name
  /-- Aliases are in lower case. -/
  lowerAlias : ∀ entry ∈ registry.aliases, entry.1.lowerCase = entry.1

theorem sound_empty : Sound {} := by
  refine ⟨List.nodup_nil, ?_, ?_, ?_⟩ <;> simp [isPrimary, valueAt?]

theorem lowerCase_of_mem_newAliases {registration : Registration} {name : Text}
    (h : name ∈ registration.newAliases) : name.lowerCase = name := by
  obtain ⟨offered, _, rfl⟩ := List.mem_map.mp (List.mem_of_mem_filter h)
  exact Text.lowerCase_lowerCase offered

theorem Sound.taken {registry : Registry} (h : registry.Sound) (registration : Registration)
    (target : Target) : Sound ((registry.setTarget registration.primary target).setAliases
      registration.primary registration.newAliases) := by
  refine ⟨nodup_keys_setAliases _ _ _ h.nodup, fun entry hentry => ?_, fun name hname => ?_,
    fun entry hentry => ?_⟩
  · rw [isPrimary_setAliases, isPrimary_setTarget]
    rcases mem_setAliases _ _ _ hentry with ⟨_, hnew⟩ | hold
    · simp [hnew]
    · simp [h.owned entry hold]
  · rw [isPrimary_setAliases, isPrimary_setTarget, Bool.or_eq_true, decide_eq_true_iff] at hname
    rcases hname with rfl | hname
    · exact Text.lowerCase_lowerCase registration.language
    · exact h.lowerPrimary name hname
  · rcases mem_setAliases _ _ _ hentry with ⟨hnew, _⟩ | hold
    · exact lowerCase_of_mem_newAliases hnew
    · exact h.lowerAlias entry hold

theorem Sound.after {registry : Registry} (h : registry.Sound) (registration : Registration) :
    (registry.after registration).Sound := by
  rcases after_eq registry registration with hafter | ⟨target, hafter⟩
  · rwa [hafter]
  · rw [hafter]
    exact h.taken registration target

/-- What every registration keeps, every sequence of them keeps. -/
theorem foldl_after {motive : Registry → Prop}
    (hafter : ∀ registry registration, motive registry → motive (registry.after registration))
    (registrations : List Registration) {registry : Registry} (h : motive registry) :
    motive (registrations.foldl after registry) := by
  induction registrations generalizing registry with
  | nil => exact h
  | cons registration registrations ih => exact ih (hafter registry registration h)

theorem sound_ofRegistrations (registrations : List Registration) :
    (ofRegistrations registrations).Sound :=
  foldl_after (fun _ registration h => h.after registration) registrations sound_empty

/-! ## Look-ups -/

theorem isPrimary_of_alias {registry : Registry} (h : registry.Sound) {name primary : Text}
    (halias : valueAt? name registry.aliases = some primary) : registry.isPrimary primary = true :=
  h.owned _ (mem_of_valueAt? halias)

theorem supports_iff (registry : Registry) (name : Text) :
    registry.supports name = true ↔ ∃ primary, registry.resolve name = .ok primary := by
  rw [supports, resolve]
  cases registry.isPrimary name.lowerCase with
  | true => simp
  | false => cases valueAt? name.lowerCase registry.aliases <;> simp

/-- What a name is resolved to is a primary name. -/
theorem Sound.isPrimary_of_resolve {registry : Registry} (h : registry.Sound) {name primary : Text}
    (hresolve : registry.resolve name = .ok primary) : registry.isPrimary primary = true := by
  rw [resolve] at hresolve
  cases hkey : registry.isPrimary name.lowerCase with
  | true =>
    rw [hkey] at hresolve
    rwa [← Except.ok.inj hresolve]
  | false =>
    rw [hkey] at hresolve
    cases halias : valueAt? name.lowerCase registry.aliases with
    | none =>
      rw [halias] at hresolve
      exact absurd hresolve (by simp)
    | some language =>
      rw [halias] at hresolve
      rw [← Except.ok.inj hresolve]
      exact isPrimary_of_alias h halias

theorem targetUnder_of_isPrimary {registry : Registry} {primary : Text}
    (h : registry.isPrimary primary = true) : ∃ target, registry.targetUnder primary = .ok target := by
  obtain ⟨target, htarget⟩ := Option.isSome_iff_exists.mp h
  exact ⟨target, by rw [targetUnder, htarget]⟩

/-- A look-up of a target fails for its name only. -/
theorem Sound.targetOf_eq {registry : Registry} (h : registry.Sound) (name : Text) :
    (∃ primary target, registry.resolve name = .ok primary ∧ registry.targetOf name = .ok target) ∨
      ∃ error, registry.resolve name = .error error ∧
        registry.targetOf name = .error (.registry error) := by
  rw [targetOf, primaryOf]
  cases hresolve : registry.resolve name with
  | error error => exact Or.inr ⟨error, rfl, rfl⟩
  | ok primary =>
    obtain ⟨target, htarget⟩ := targetUnder_of_isPrimary (h.isPrimary_of_resolve hresolve)
    exact Or.inl ⟨primary, target, rfl, htarget⟩

/-- A name selects a language iff there is a target for it. -/
theorem Sound.resolve_iff_targetOf {registry : Registry} (h : registry.Sound) (name : Text) :
    (∃ primary, registry.resolve name = .ok primary) ↔
      ∃ target, registry.targetOf name = .ok target := by
  rcases h.targetOf_eq name with ⟨primary, target, hresolve, htarget⟩ | ⟨error, hresolve, htarget⟩
  · exact ⟨fun _ => ⟨target, htarget⟩, fun _ => ⟨primary, hresolve⟩⟩
  · simp [hresolve, htarget]

theorem Sound.targetOf_ne_noTarget {registry : Registry} (h : registry.Sound)
    (name primary : Text) : registry.targetOf name ≠ .error (.noTarget primary) := by
  rcases h.targetOf_eq name with ⟨_, target, _, htarget⟩ | ⟨error, _, htarget⟩ <;> simp [htarget]

/-! ## The whole -/

theorem after_of_error {registry : Registry} {registration : Registration} {error : RegistryError}
    (h : (Step.run (register registration) registry).1 = .error error) :
    registry.after registration = registry := by
  have heffect := effect_register registry registration
  rw [h] at heffect
  generalize registry.after registration = next at heffect
  cases heffect
  rfl

theorem after_of_isPrimary {registry : Registry} {registration : Registration}
    (hthere : registry.isPrimary registration.primary = true)
    (hkept : registration.replacing = false) : registry.after registration = registry := by
  have heffect := effect_register registry registration
  generalize (Step.run (register registration) registry).1 = result at heffect
  generalize registry.after registration = next at heffect
  cases heffect with
  | refused error => rfl
  | ignored _ _ => rfl
  | taken target hoffer hfree => exact absurd (hfree hkept).1 (by simp [hthere])

theorem isPrimary_after {registry : Registry} {name : Text} (registration : Registration)
    (h : registry.isPrimary name = true) : (registry.after registration).isPrimary name = true := by
  rcases after_eq registry registration with hafter | ⟨target, hafter⟩
  · rwa [hafter]
  · simp [hafter, h]

theorem mem_languages_iff {registry : Registry} {name : Text} :
    name ∈ registry.languages ↔ registry.isPrimary name = true := by
  rw [languages, Text.sorted, List.mem_mergeSort, isPrimary, isSome_valueAt?_iff]

/-- What a registry promises to those who register languages and look them up. -/
structure Consistent (registry : Registry) : Prop where
  /-- An alias stands for a language that is there. -/
  owned : ∀ name primary, (name, primary) ∈ registry.aliases → primary ∈ registry.languages
  /-- What is supported is resolved, and nothing else is. -/
  resolved : ∀ name, registry.supports name = true ↔ ∃ primary, registry.resolve name = .ok primary
  /-- What is resolved has a target, and nothing else has one. -/
  targeted : ∀ name, (∃ primary, registry.resolve name = .ok primary) ↔
    ∃ target, registry.targetOf name = .ok target
  /-- No name is resolved to a language without a target. -/
  filled : ∀ name primary, registry.targetOf name ≠ .error (.noTarget primary)
  /-- A registration that is refused changes nothing. -/
  refused : ∀ registration error, (Step.run (register registration) registry).1 = .error error →
    registry.after registration = registry
  /-- A language that is there is not registered again unless it is replaced. -/
  ignored : ∀ registration : Registration, registration.primary ∈ registry.languages →
    registration.replacing = false → registry.after registration = registry
  /-- No registration after it takes a language away. -/
  kept : ∀ (registrations : List Registration) language, language ∈ registry.languages →
    language ∈ (registrations.foldl after registry).languages

theorem consistent_ofRegistrations (registrations : List Registration) :
    (ofRegistrations registrations).Consistent := by
  have hsound := sound_ofRegistrations registrations
  generalize ofRegistrations registrations = registry at hsound
  exact
    { owned := fun name primary h => mem_languages_iff.mpr (hsound.owned (name, primary) h)
      resolved := supports_iff registry
      targeted := hsound.resolve_iff_targetOf
      filled := hsound.targetOf_ne_noTarget
      refused := fun registration error => after_of_error
      ignored := fun registration hthere =>
        after_of_isPrimary (mem_languages_iff.mp hthere)
      kept := fun registrations language h => by
        rw [mem_languages_iff] at h ⊢
        exact foldl_after (motive := fun registry => registry.isPrimary language = true)
          (fun _ registration => isPrimary_after registration) registrations h }

/-- A refusal after an alias that was free: neither the language nor that alias is there. -/
example : (Step.run (register
      { language := "kotlin", offer := .target .java, aliases := ["kt", "ts"] }) builtin) =
    (.error (.aliasTaken "ts" "typescript"), builtin) := by
  cbv

end Registry

end SampleTypes
