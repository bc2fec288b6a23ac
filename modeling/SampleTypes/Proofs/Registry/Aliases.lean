import Mathlib
import SampleTypes.Proofs.Registry.Registrations

/-!
# What aliases mean

An alias that is listed for a language selects that language, unless it is the primary name of another
one, which then wins. Registrations that do not replace anything look at their aliases first, so an
alias can be a primary name in two ways only:

* a registration that replaces what is there names a primary name among its aliases: it may, no alias
  is refused then;
* a language is registered under a name that is an alias by then.

Without either (`Registry.isClear`) names and aliases stay apart (`Registry.Apart`), and every alias
keeps its meaning.
-/

set_option autoImplicit false

namespace SampleTypes.Registry

variable {registry : Registry} {registration : Registration} {language name primary : Text}

/-! ## What is listed -/

theorem mem_aliasesOf : name ∈ registry.aliasesOf language ↔
    (name, language.lowerCase) ∈ registry.aliases := by
  rw [aliasesOf, Text.sorted, List.mem_mergeSort, List.mem_map]
  constructor
  · rintro ⟨⟨listed, owner⟩, hentry, rfl⟩
    obtain ⟨hentry, howner⟩ := List.mem_filter.mp hentry
    rwa [← eq_of_beq howner]
  · exact fun hentry => ⟨_, List.mem_filter.mpr ⟨hentry, beq_self_eq_true _⟩, rfl⟩

/-- An alias selects the language it is listed for, unless it is a primary name. -/
theorem Sound.resolve_of_mem_aliasesOf (h : registry.Sound) (hlanguage : language ∈ registry.languages)
    (hlisted : name ∈ registry.aliasesOf language) (hname : name ∉ registry.languages) :
    registry.resolve name = .ok language := by
  rw [mem_languages_iff] at hlanguage
  rw [mem_languages_iff, Bool.not_eq_true] at hname
  have hentry := mem_aliasesOf.mp hlisted
  rw [h.lowerPrimary language hlanguage] at hentry
  rw [resolve, h.lowerAlias _ hentry, hname, valueAt?_of_mem h.nodup hentry]
  rfl

/-! ## Names and aliases apart -/

/-- No alias is a primary name. -/
def Apart (registry : Registry) : Prop :=
  ∀ name ∈ registry.languages, name ∉ registry.aliases.map (·.1)

theorem apart_iff : registry.Apart ↔
    ∀ name, registry.isPrimary name = true → valueAt? name registry.aliases = none := by
  refine forall_congr' fun name => imp_congr mem_languages_iff ?_
  rw [← isSome_valueAt?_iff, Option.not_isSome_iff_eq_none]

/-- Whether a registration makes a language of an alias or, which it can only if it replaces what is
there, an alias of a language. -/
def clashes (registry : Registry) (registration : Registration) : Bool :=
  (valueAt? registration.primary registry.aliases).isSome ||
    registration.replacing && registration.newAliases.any registry.isPrimary

/-- Whether none of the registrations that change something clashes with what is there by then. -/
def isClear (registry : Registry) : List Registration → Bool
  | [] => true
  | registration :: registrations =>
    (decide (registry.after registration = registry) || !registry.clashes registration) &&
      (registry.after registration).isClear registrations

theorem primary_notMem_newAliases : registration.primary ∉ registration.newAliases :=
  fun h => bne_iff_ne.mp (List.mem_filter.mp h).2 rfl

/-- A registration that is taken adds no alias that is a primary name, if it does not clash. -/
theorem not_isPrimary_of_mem_newAliases (hclear : registry.clashes registration = false)
    (hfree : registration.replacing = false →
      ∀ name ∈ registration.newAliases, registry.IsFree registration.primary name)
    (hname : name ∈ registration.newAliases) : registry.isPrimary name = false := by
  cases hreplacing : registration.replacing with
  | false => exact (hfree hreplacing name hname).1
  | true =>
    rw [clashes, Bool.or_eq_false_iff, hreplacing, Bool.true_and] at hclear
    simpa using List.any_eq_false.mp hclear.2 name hname

theorem Apart.after (h : registry.Apart)
    (hclear : registry.after registration = registry ∨ registry.clashes registration = false) :
    (registry.after registration).Apart := by
  have heffect := effect_register registry registration
  generalize (Step.run (register registration) registry).1 = result at heffect
  generalize registry.after registration = next at heffect hclear ⊢
  rcases hclear with rfl | hclear
  · exact h
  cases heffect with
  | refused error => exact h
  | ignored hthere hkept => exact h
  | taken target hoffer hfree =>
    rw [apart_iff] at h ⊢
    intro name hname
    have hprimary : valueAt? registration.primary registry.aliases = none := by
      rw [clashes, Bool.or_eq_false_iff] at hclear
      simpa using hclear.1
    rw [isPrimary_setAliases, isPrimary_setTarget, Bool.or_eq_true, decide_eq_true_iff] at hname
    rw [valueAt?_setAliases, aliases_setTarget]
    -- The primary name is no new alias, and any other primary name was one before.
    rcases hname with rfl | hname
    · rw [if_neg primary_notMem_newAliases, hprimary]
    · have hnew : name ∉ registration.newAliases := fun hnew => by
        have hfresh := not_isPrimary_of_mem_newAliases hclear (fun hkept => (hfree hkept).2) hnew
        exact absurd hname (by simp [hfresh])
      rw [if_neg hnew, h name hname]

theorem Apart.foldl_after {registrations : List Registration} (h : registry.Apart)
    (hclear : registry.isClear registrations = true) :
    (registrations.foldl Registry.after registry).Apart := by
  induction registrations generalizing registry with
  | nil => exact h
  | cons registration registrations ih =>
    rw [isClear, Bool.and_eq_true, Bool.or_eq_true, decide_eq_true_iff, Bool.not_eq_true'] at hclear
    exact ih (h.after hclear.1) hclear.2

/-! ## The meaning of an alias -/

/-- Aliases mean their languages: none is a primary name, and each selects the language that it is
listed for. -/
structure KeepsMeaning (registry : Registry) : Prop where
  /-- No alias is a primary name. -/
  apart : registry.Apart
  /-- An alias selects the language that it is listed for. -/
  resolved : ∀ language ∈ registry.languages, ∀ name ∈ registry.aliasesOf language,
    registry.resolve name = .ok language

/-- Whatever was registered, an alias that is no primary name selects the language that it is listed
for. If nothing that was taken clashed, all of them do, and none is a primary name. -/
theorem aliases_ofRegistrations (registrations : List Registration) :
    (∀ language ∈ (ofRegistrations registrations).languages,
      ∀ name ∈ (ofRegistrations registrations).aliasesOf language,
        name ∉ (ofRegistrations registrations).languages →
          (ofRegistrations registrations).resolve name = .ok language) ∧
    (isClear {} registrations = true → (ofRegistrations registrations).KeepsMeaning) := by
  have hsound := sound_ofRegistrations registrations
  refine ⟨fun language hlanguage name => hsound.resolve_of_mem_aliasesOf hlanguage,
    fun hclear => ?_⟩
  have hapart : (ofRegistrations registrations).Apart :=
    Apart.foldl_after (fun name _ => List.not_mem_nil) hclear
  refine ⟨hapart, fun language hlanguage name hlisted => ?_⟩
  refine hsound.resolve_of_mem_aliasesOf hlanguage hlisted fun hname => ?_
  exact hapart name hname (List.mem_map_of_mem (f := (·.1)) (mem_aliasesOf.mp hlisted))

/-- Among registrations of which one is refused and one replaces a language. -/
theorem aliases_of_clear_registrations :
    isClear {} [{ language := "typescript", offer := .target .typescript, aliases := ["ts"] },
      { language := "java", offer := .target .java },
      { language := "kotlin", offer := .target .java, aliases := ["java"] },
      { language := "Java", offer := .target .java, aliases := ["jvm"], replacing := true }] = true ∧
    (ofRegistrations
      [{ language := "typescript", offer := .target .typescript, aliases := ["ts"] },
        { language := "java", offer := .target .java },
        { language := "kotlin", offer := .target .java, aliases := ["java"] },
        { language := "Java", offer := .target .java, aliases := ["jvm"],
          replacing := true }]).KeepsMeaning :=
  have hclear : isClear {} _ = true := by cbv
  ⟨hclear, (aliases_ofRegistrations _).2 hclear⟩

/-- A registration that may replace what is there takes the name of another language for an alias. The
alias is listed, and goes on selecting the other language. -/
theorem not_keepsMeaning_of_replacing :
    ¬ (ofRegistrations
      [{ language := "java", offer := .target .java },
        { language := "ts", offer := .target .typescript, aliases := ["java"],
          replacing := true }]).KeepsMeaning ∧
    ("java" : Text) ∈ (ofRegistrations
      [{ language := "java", offer := .target .java },
        { language := "ts", offer := .target .typescript, aliases := ["java"],
          replacing := true }]).aliasesOf "ts" ∧
    (ofRegistrations
      [{ language := "java", offer := .target .java },
        { language := "ts", offer := .target .typescript, aliases := ["java"],
          replacing := true }]).resolve "java" = .ok "java" := by
  refine ⟨fun h => ?_, mem_aliasesOf.mpr (mem_of_valueAt? (by cbv)), by cbv⟩
  refine h.apart "java" (mem_languages_iff.mpr (by cbv)) ?_
  exact isSome_valueAt?_iff.mp (by cbv)

end SampleTypes.Registry
