import SampleTypes.Proofs.Json.Objects
import SampleTypes.Settings.Source

/-!
# What layers of settings come to

Settings are made of layers that lie over each other: the defaults of a language, a file, and the user's
own. Only the values that are left on top count:

> **the settings, or the fault that is reported, are those of one layer that holds for each key the value
> of the last layer that has it**, and a file may as well be laid under the user's own layer beforehand.

That the order of laying over does not matter is `Layer.over_over`. What a layer makes of settings is said
by one relation, `Settings.Under`, which a single member keeps (`applyMember_outcome`) and so a whole layer
(`foldlM_applyMember_outcome`).
-/

set_option autoImplicit false

namespace SampleTypes

/-! ## Layers over each other -/

namespace Settings.Layer

variable {key : Text} {value : Json} {upper lower file own : Layer}

/-- Whether a layer holds each key once. -/
def HasDistinctKeys (layer : Layer) : Prop := (layer.map (·.1)).Nodup

instance (layer : Layer) : Decidable layer.HasDistinctKeys :=
  inferInstanceAs (Decidable (layer.map (·.1)).Nodup)

@[simp]
theorem nil_over (lower : Layer) : Layer.over [] lower = lower := rfl

@[simp]
theorem cons_over (member : Text × Json) (upper lower : Layer) :
    Layer.over (member :: upper) lower = Layer.over upper (setValue member.1 member.2 lower) := by
  rw [← Json.setMember_eq_setValue]
  rfl

/-- A value of a key that the upper layer does not have may be set before or after. -/
theorem setValue_over (hupper : key ∉ upper.map (·.1)) (hlower : key ∈ lower.map (·.1)) :
    setValue key value (upper.over lower) = upper.over (setValue key value lower) := by
  induction upper generalizing lower with
  | nil => rfl
  | cons member upper ih =>
    obtain ⟨hne, hupper⟩ := not_or.mp fun h => hupper (List.mem_cons.mpr h)
    rw [cons_over, cons_over, ih hupper (mem_keys_setValue.mpr (Or.inr hlower)),
      setValue_comm (Ne.symm hne) hlower]

/-- Setting a value in the upper layer is setting it at the end. -/
theorem over_setValue (hupper : upper.HasDistinctKeys) (lower : Layer) :
    Layer.over (setValue key value upper) lower = setValue key value (upper.over lower) := by
  induction upper generalizing lower with
  | nil => rw [setValue, cons_over, nil_over, nil_over]
  | cons member upper ih =>
    obtain ⟨hnew, hupper⟩ := List.nodup_cons.mp hupper
    by_cases hkey : member.1 = key
    · have hthere : key ∈ (setValue member.1 member.2 lower).map (·.1) :=
        mem_keys_setValue.mpr (Or.inl hkey.symm)
      rw [cons_over, setValue_over (hkey ▸ hnew) hthere, hkey, setValue_setValue_self]
      simp [setValue, hkey]
    · rw [cons_over, ← ih hupper, setValue, if_neg hkey, cons_over]

theorem over_over (own : Layer) (hfile : file.HasDistinctKeys) (lower : Layer) :
    (own.over file).over lower = own.over (file.over lower) := by
  induction own generalizing file with
  | nil => rfl
  | cons member own ih =>
    rw [cons_over, cons_over, ih (nodup_keys_setValue hfile), over_setValue hfile]

theorem HasDistinctKeys.over (hlower : lower.HasDistinctKeys) (upper : Layer) :
    (upper.over lower).HasDistinctKeys :=
  Json.nodup_keys_foldl_setMember upper hlower

theorem getMember?_over (hupper : upper.HasDistinctKeys) (lower : Layer) (key : Text) :
    Json.getMember? key (upper.over lower) =
      (Json.getMember? key upper).or (Json.getMember? key lower) := by
  induction upper generalizing lower with
  | nil => rfl
  | cons member upper ih =>
    obtain ⟨hnew, hupper⟩ := List.nodup_cons.mp hupper
    rw [cons_over, ih hupper, ← Json.setMember_eq_setValue, Json.getMember?_setMember,
      Json.getMember?]
    by_cases hkey : key = member.1
    · rw [if_pos hkey, if_pos hkey.symm, Json.getMember?_eq_none_iff.mpr (hkey ▸ hnew)]
      rfl
    · rw [if_neg hkey, if_neg (Ne.symm hkey)]

/-- The value of a key in the last of the layers that has it. -/
def lastValue? (layers : List Layer) (key : Text) : Option Json :=
  layers.reverse.findSome? (Json.getMember? key)

theorem getMember?_over_over (hfile : file.HasDistinctKeys) (hown : own.HasDistinctKeys)
    (lower : Layer) (key : Text) :
    Json.getMember? key (own.over (file.over lower)) = lastValue? [lower, file, own] key := by
  rw [getMember?_over hown, getMember?_over hfile]
  cases hvalue : Json.getMember? key own <;> cases hfileValue : Json.getMember? key file <;>
    simp [lastValue?, hvalue, hfileValue]

end Settings.Layer

/-! ## Keys and their values -/

namespace SettingKey

/-- Whether a setting takes a value. -/
def takes : SettingKey → Json → Bool
  | packageName, .str _ => true
  | indentSize, .int _ => true
  | useTabs, .bool _ | exportDeclarations, .bool _ | useLombok, .bool _ => true
  | jsonInclude, .str _ | jsonInclude, .null => true
  | _, _ => false

/-- The form in which a setting keeps a value. -/
def kept : SettingKey → Json → Json
  | jsonInclude, .str policy => .str policy.upperCase
  | _, value => value

theorem ofText?_eq_some_iff {t : Text} {key : SettingKey} : ofText? t = some key ↔ key.name = t := by
  constructor
  · intro h
    rw [ofText?] at h
    simpa using List.find?_some h
  · rintro rfl
    cases key <;> rfl

theorem ofText?_eq_none_iff {t : Text} : ofText? t = none ↔ t ∉ all.map name := by
  simp [ofText?]

theorem name_injective : Function.Injective name := fun _ _ h =>
  Option.some.inj ((ofText?_eq_some_iff.mpr h).symm.trans (ofText?_eq_some_iff.mpr rfl))

theorem name_ne_customKey (key : SettingKey) : key.name ≠ customKey := by
  cases key <;> decide

end SettingKey

namespace Settings

variable {initial settings : Settings} {layer : Layer}

/-- The names of all settings. -/
def names : List Text := customKey :: SettingKey.all.map SettingKey.name

theorem name_mem_names (key : SettingKey) : key.name ∈ names := by
  cases key <;> decide

theorem exists_of_mem_names {name : Text} (h : name ∈ names) :
    name = customKey ∨ ∃ key : SettingKey, key.name = name := by
  rcases List.mem_cons.mp h with h | h
  · exact Or.inl h
  · obtain ⟨key, _, hkey⟩ := List.mem_map.mp h
    exact Or.inr ⟨key, hkey⟩

/-- The value of a known setting. -/
def value (settings : Settings) : SettingKey → Json
  | .packageName => .str settings.packageName
  | .indentSize => .int settings.indentSize
  | .useTabs => .bool settings.useTabs
  | .exportDeclarations => .bool settings.exportDeclarations
  | .useLombok => .bool settings.useLombok
  | .jsonInclude => (settings.jsonInclude.map Json.str).getD .null

/-- The faults that the values of keys give cause for. -/
inductive Faulty (value? : Text → Option Json) : SettingFault → Prop where
  /-- A known setting has a value of a kind that it does not take. -/
  | wrongKind {key : SettingKey} {value : Json} (hvalue : value? key.name = some value)
      (hkind : key.takes value = false) : Faulty value? (.wrongKind key value)
  /-- The settings that no target knows are something that counts as true, but no object. -/
  | customNotObject {value : Json} (hvalue : value? customKey = some value)
      (htruthy : value.isTruthy = true) (hkind : ∀ members, value ≠ .obj members) :
      Faulty value? (.customNotObject value)

/-- What the values of keys make of the settings there were before. -/
structure Under (initial : Settings) (value? : Text → Option Json) (settings : Settings) : Prop where
  /-- A known setting has the value of its key; without one it is as it was. -/
  known : ∀ key : SettingKey, settings.value key =
    ((value? key.name).map key.kept).getD (initial.value key)
  /-- The custom settings are those there were, with the values of all other keys over them. -/
  custom : ∀ name, Json.getMember? name settings.custom =
    (if name ∈ names then none else value? name).or (Json.getMember? name initial.custom)

theorem Under.trans {first second : Text → Option Json} {between : Settings}
    (hfirst : initial.Under first between) (hsecond : between.Under second settings) :
    initial.Under (fun name => (second name).or (first name)) settings := by
  refine ⟨fun key => ?_, fun name => ?_⟩
  · rw [hsecond.known, hfirst.known]
    cases second key.name <;> rfl
  · rw [hsecond.custom, hfirst.custom, ← Option.or_assoc]
    split <;> rfl

/-! ## One member -/

section Member

variable (settings : Settings) {key : SettingKey} {name : Text} {value : Json}

theorem set_of_takes (h : key.takes value = true) : ∃ next, settings.set key value = .ok next ∧
    next.custom = settings.custom ∧
      ∀ other, next.value other = if other = key then key.kept value else settings.value other := by
  cases key <;> cases value <;> cases h
  all_goals exact ⟨_, rfl, rfl, fun other => by cases other <;> rfl⟩

theorem set_of_takes_eq_false (h : key.takes value = false) :
    settings.set key value = .error (.wrongKind key value) := by
  cases key <;> cases value <;> cases h <;> rfl

theorem applyMember_name (key : SettingKey) (value : Json) :
    applyMember settings (key.name, value) = settings.set key value := by
  rw [applyMember, if_neg key.name_ne_customKey, SettingKey.ofText?_eq_some_iff.mpr rfl]

theorem applyMember_of_takes (h : key.takes value = true) :
    ∃ next, applyMember settings (key.name, value) = .ok next ∧
      settings.Under (Json.getMember? · [(key.name, value)]) next := by
  obtain ⟨next, hset, hcustom, hvalue⟩ := set_of_takes settings h
  refine ⟨next, by rw [applyMember_name, hset], fun other => ?_, fun other => ?_⟩
  · rw [hvalue]
    by_cases hother : other = key
    · simp [Json.getMember?, hother]
    · simp [Json.getMember?, hother, SettingKey.name_injective.ne (Ne.symm hother)]
  · rw [hcustom]
    by_cases hother : key.name = other
    · simp [← hother, name_mem_names]
    · simp [Json.getMember?, hother]

/-- The gathered custom settings are looked at beforehand. -/
theorem under_customKey (value : Json) :
    settings.Under (Json.getMember? · [(customKey, value)]) settings := by
  refine ⟨fun key => ?_, fun other => ?_⟩
  · simp [Json.getMember?, key.name_ne_customKey.symm]
  · by_cases hother : customKey = other
    · simp [← hother, names]
    · simp [Json.getMember?, hother]

theorem applyMember_of_notMem (h : name ∉ names) (value : Json) :
    ∃ next, applyMember settings (name, value) = .ok next ∧
      settings.Under (Json.getMember? · [(name, value)]) next := by
  obtain ⟨hcustom, hknown⟩ := not_or.mp fun hmem => h (List.mem_cons.mpr hmem)
  refine ⟨{ settings with custom := Json.setMember name value settings.custom }, ?_,
    fun key => ?_, fun other => ?_⟩
  · rw [applyMember, if_neg hcustom, SettingKey.ofText?_eq_none_iff.mpr hknown]
  · have hne : name ≠ key.name := fun hkey => h (hkey ▸ name_mem_names key)
    simp only [Json.getMember?, if_neg hne]
    cases key <;> rfl
  · rw [Json.getMember?_setMember]
    by_cases hother : name = other
    · simp [Json.getMember?, ← hother, h]
    · simp [Json.getMember?, hother, Ne.symm hother]

end Member

/-- Whether a member has a value that the setting of that name takes, if it is a known one. -/
def Fits (member : Text × Json) : Prop :=
  ∀ key : SettingKey, key.name = member.1 → key.takes member.2 = true

/-- A member is taken, or its value is of the wrong kind. -/
theorem applyMember_outcome (settings : Settings) (member : Text × Json) :
    (∃ next, applyMember settings member = .ok next ∧
        settings.Under (Json.getMember? · [member]) next ∧ Fits member) ∨
      ∃ key : SettingKey, key.name = member.1 ∧ key.takes member.2 = false ∧
        applyMember settings member = .error (.wrongKind key member.2) := by
  obtain ⟨name, value⟩ := member
  by_cases hname : name ∈ names
  · rcases exists_of_mem_names hname with rfl | ⟨key, rfl⟩
    · exact Or.inl ⟨settings, if_pos rfl, under_customKey settings value,
        fun key hkey => absurd hkey key.name_ne_customKey⟩
    · cases htakes : key.takes value with
      | true =>
        obtain ⟨next, hnext, hunder⟩ := applyMember_of_takes settings htakes
        exact Or.inl ⟨next, hnext, hunder,
          fun other hother => by rwa [SettingKey.name_injective hother]⟩
      | false =>
        refine Or.inr ⟨key, rfl, htakes, ?_⟩
        rw [applyMember_name, set_of_takes_eq_false settings htakes]
  · obtain ⟨next, hnext, hunder⟩ := applyMember_of_notMem settings hname value
    exact Or.inl ⟨next, hnext, hunder, fun key hkey => absurd (name_mem_names key) (hkey ▸ hname)⟩

/-! ## A whole layer -/

/-- A layer is taken as a whole, or is refused for one of its members. -/
theorem foldlM_applyMember_outcome (hkeys : layer.HasDistinctKeys) (initial : Settings) :
    (∃ settings, layer.foldlM applyMember initial = .ok settings ∧
        initial.Under (Json.getMember? · layer) settings ∧ ∀ member ∈ layer, Fits member) ∨
      ∃ (key : SettingKey) (value : Json), (key.name, value) ∈ layer ∧ key.takes value = false ∧
        layer.foldlM applyMember initial = .error (.wrongKind key value) := by
  induction layer generalizing initial with
  | nil => exact Or.inl ⟨initial, rfl, ⟨fun _ => rfl, fun _ => by simp [Json.getMember?]⟩, by simp⟩
  | cons member layer ih =>
    obtain ⟨hnew, hkeys⟩ := List.nodup_cons.mp hkeys
    rw [List.foldlM_cons]
    rcases applyMember_outcome initial member with
      ⟨next, hnext, hunder, hfits⟩ | ⟨key, hname, hkind, herror⟩
    · rw [hnext]
      rcases ih hkeys next with ⟨settings, hrun, hrest, hall⟩ | ⟨key, value, hmem, hkind, herror⟩
      · refine Or.inl ⟨settings, hrun, ?_, List.forall_mem_cons.mpr ⟨hfits, hall⟩⟩
        simpa only [Json.getMember?_cons_of_notMem hnew] using hunder.trans hrest
      · exact Or.inr ⟨key, value, List.mem_cons_of_mem _ hmem, hkind, herror⟩
    · rw [herror]
      exact Or.inr ⟨key, member.2, hname ▸ List.mem_cons_self, hkind, rfl⟩

/-- The members of an object that may be there. -/
def membersIn : Option Json → List (Text × Json)
  | some (.obj members) => members
  | _ => []

theorem gatheredCustom_outcome (layer : Layer) :
    (gatheredCustom layer = .ok (membersIn (Json.getMember? customKey layer)) ∧
        ∀ value, ¬ Faulty (Json.getMember? · layer) (.customNotObject value)) ∨
      ∃ value, gatheredCustom layer = .error (.customNotObject value) ∧
        Faulty (Json.getMember? · layer) (.customNotObject value) := by
  cases hvalue : Json.getMember? customKey layer with
  | none =>
    refine Or.inl ⟨by rw [gatheredCustom, hvalue]; rfl, ?_⟩
    rintro value (_ | ⟨hsome, _, _⟩)
    cases hvalue.symm.trans hsome
  | some value =>
    by_cases hobject : ∃ members, value = .obj members
    · obtain ⟨members, rfl⟩ := hobject
      refine Or.inl ⟨by rw [gatheredCustom, hvalue]; rfl, ?_⟩
      rintro other (_ | ⟨hsome, _, hkind⟩)
      exact hkind members (Option.some.inj (hsome.symm.trans hvalue))
    · have hkind : ∀ members, value ≠ .obj members := not_exists.mp hobject
      have hgathered : gatheredCustom layer =
          if value.isTruthy then .error (.customNotObject value) else .ok (membersIn (some value)) := by
        rw [gatheredCustom, hvalue]
        cases value <;> first | rfl | exact absurd rfl (hkind _)
      rw [hgathered]
      cases htruthy : value.isTruthy with
      | true => exact Or.inr ⟨value, rfl, .customNotObject hvalue htruthy hkind⟩
      | false =>
        refine Or.inl ⟨rfl, ?_⟩
        rintro other (_ | ⟨hsome, hother, _⟩)
        rw [Option.some.inj (hsome.symm.trans hvalue), htruthy] at hother
        cases hother

/-- The settings of a layer, or the fault for which it is refused. -/
theorem ofLayer_outcome (hkeys : layer.HasDistinctKeys) :
    (∃ settings, ofLayer layer = .ok settings ∧
        Under { custom := membersIn (Json.getMember? customKey layer) }
          (Json.getMember? · layer) settings ∧ ∀ fault, ¬ Faulty (Json.getMember? · layer) fault) ∨
      ∃ fault, ofLayer layer = .error fault ∧ Faulty (Json.getMember? · layer) fault := by
  rw [ofLayer]
  rcases gatheredCustom_outcome layer with ⟨hcustom, hobject⟩ | ⟨value, herror, hfault⟩
  · rw [hcustom]
    rcases foldlM_applyMember_outcome hkeys { custom := membersIn (Json.getMember? customKey layer) }
      with ⟨settings, hrun, hunder, hfits⟩ | ⟨key, value, hmem, hkind, herror⟩
    · refine Or.inl ⟨settings, hrun, hunder, fun fault hfault => ?_⟩
      cases hfault with
      | wrongKind hvalue hkind =>
        have htakes := hfits _ ((Json.getMember?_eq_some_iff hkeys).mp hvalue) _ rfl
        exact absurd htakes (by simp [hkind])
      | customNotObject hvalue htruthy hkind =>
        exact hobject _ (.customNotObject hvalue htruthy hkind)
    · exact Or.inr ⟨_, herror, .wrongKind ((Json.getMember?_eq_some_iff hkeys).mpr hmem) hkind⟩
  · rw [herror]
    exact Or.inr ⟨_, rfl, hfault⟩

end Settings

end SampleTypes
