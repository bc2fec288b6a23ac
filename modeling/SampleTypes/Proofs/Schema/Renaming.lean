import Mathlib.Data.List.Sort
import Mathlib.Data.Set.Function
import SampleTypes.Proofs.Emission.Renaming
import SampleTypes.Proofs.Naming.Names
import SampleTypes.Proofs.Schema.Closing
import SampleTypes.Proofs.Schema.Connected
import SampleTypes.Target.Basic

/-!
# Two styles give one schema under different names

Two styles decorate names differently. But each gives two keys one name iff the keys are alike in
Pascal case, so **the two merge the same objects**. Where the root is named as a key would be, the
same objects own a declaration (`IsOwnership.restyle`), their declarations differ in names only
(`Restyled.renamed`), and the order of emission does not look at names. So the schemas are the same
up to a renaming.
-/

set_option autoImplicit false

namespace SampleTypes

/-! ## Names of one key -/

namespace NamingStyle

/-- Names that two styles give to one key. -/
def Alike (style style' : NamingStyle) (name name' : Text) : Prop :=
  ∃ hint, style.declarationName hint true = name ∧ style'.declarationName hint true = name'

theorem declarationName_eq_iff (style style' : NamingStyle) (hint hint' : Text) :
    style.declarationName hint true = style.declarationName hint' true ↔
      style'.declarationName hint true = style'.declarationName hint' true :=
  NamingConvention.declarationName_inj.trans NamingConvention.declarationName_inj.symm

/-- **The names of one style and of another correspond one to one.** -/
theorem biUnique_alike (style style' : NamingStyle) : Relator.BiUnique (style.Alike style') := by
  constructor
  · rintro name other name' ⟨hint, rfl, rfl⟩ ⟨hint', rfl, h⟩
    exact (declarationName_eq_iff style style' hint hint').mpr h.symm
  · rintro name name' other ⟨hint, rfl, rfl⟩ ⟨hint', h, rfl⟩
    exact (declarationName_eq_iff style style' hint hint').mp h.symm

end NamingStyle

/-! ## Objects that are named as keys are -/

/-- The object has the name that it would have under a key. -/
def SampledObject.NamedAsKey (style : NamingStyle) (o : SampledObject) : Prop :=
  o.name style = style.declarationName o.hint true

variable {style style' : NamingStyle} {root : Option SampledObject}

theorem fromKey_of_of? {fromKey : Bool} {o : SampledObject} :
    ∀ {value : Json} {place : Place}, SampledObject.of? value place fromKey = some o →
      o.fromKey = fromKey
  | .arr (first :: _), place, h => by
    rw [SampledObject.of?] at h
    exact fromKey_of_of? h
  | .obj _, _, h => by
    rw [SampledObject.of?] at h
    rw [← Option.some.inj h]
  | .null, _, h | .bool _, _, h | .str _, _, h | .int _, _, h | .float _, _, h
  | .arr [], _, h => absurd h (by simp [SampledObject.of?])

theorem namedAsKey_of_of? (style : NamingStyle) {o : SampledObject} {value : Json} {place : Place}
    (h : SampledObject.of? value place true = some o) : o.NamedAsKey style := by
  rw [SampledObject.NamedAsKey, SampledObject.name, fromKey_of_of? h]

/-- What is in a root that is named as a key is, is named so, too. -/
theorem namedAsKey_of_objectAt? (hroot : ∀ o, root = some o → o.NamedAsKey style) {a : Site}
    {o : SampledObject} (h : objectAt? root a = some o) : o.NamedAsKey style := by
  induction a using List.reverseRecOn with
  | nil => exact hroot o h
  | append_singleton a i _ =>
    rw [objectAt?_snoc] at h
    obtain ⟨holder, _, hmember⟩ := Option.bind_eq_some_iff.mp h
    rw [SampledObject.member?] at hmember
    obtain ⟨member, _, hof⟩ := Option.bind_eq_some_iff.mp hmember
    exact namedAsKey_of_of? style hof

section

variable (hroot : ∀ o, root = some o → o.NamedAsKey style)
  (hroot' : ∀ o, root = some o → o.NamedAsKey style')

include hroot hroot'

theorem nameAt?_eq_iff (a b : Site) : nameAt? style root a = nameAt? style root b ↔
    nameAt? style' root a = nameAt? style' root b := by
  have hnamed := fun {a : Site} {o : SampledObject} (h : objectAt? root a = some o) =>
    namedAsKey_of_objectAt? hroot h
  have hnamed' := fun {a : Site} {o : SampledObject} (h : objectAt? root a = some o) =>
    namedAsKey_of_objectAt? hroot' h
  simp only [nameAt?]
  cases ha : objectAt? root a with
  | none =>
    cases hb : objectAt? root b with
    | none => rfl
    | some p => simp
  | some o =>
    cases hb : objectAt? root b with
    | none => simp
    | some p =>
      simp only [Option.map_some, Option.some.injEq]
      rw [hnamed ha, hnamed hb, hnamed' ha, hnamed' hb]
      exact NamingStyle.declarationName_eq_iff style style' o.hint p.hint

/-- **The same objects own a declaration.** -/
theorem IsOwnership.restyle {owns : Site → Prop} (h : IsOwnership style root owns) :
    IsOwnership style' root owns := by
  intro a
  rw [h a]
  refine and_congr_right fun _ => forall_congr' fun b => ?_
  rw [Ne, Ne, nameAt?_eq_iff hroot hroot' b a]

end

/-! ## Declarations of one object -/

/-- The same type, with other names in it. -/
def FieldType.rename (rename : Text → Text) : FieldType → FieldType
  | .list element => .list (element.rename rename)
  | .ref name => .ref (rename name)
  | type => type

theorem sampledType_rename {rename : Text → Text} {fromKey : Bool} :
    ∀ (value : Json) (place : Place),
      (∀ o, SampledObject.of? value place fromKey = some o →
        rename (o.name style) = o.name style') →
      sampledType style' fromKey value place =
        (sampledType style fromKey value place).rename rename
  | .arr (first :: _), place, h => by
    have ih := sampledType_rename first place.item h
    rw [sampledType, sampledType, ih]
    rfl
  | .obj members, place, h => congrArg FieldType.ref (h _ rfl).symm
  | .null, _, _ | .bool _, _, _ | .str _, _, _ | .int _, _, _ | .float _, _, _ | .arr [], _, _ => rfl

/-- The same declaration under other names: it has the same keys, and the same types up to the names
in them. Field names are the style's own. -/
structure Declaration.Renamed (rename : Text → Text) (d d' : Declaration) : Prop where
  name : d'.name = rename d.name
  keys : d'.fields.map (·.key) = d.fields.map (·.key)
  types : d'.fields.map (·.type) = d.fields.map (·.type.rename rename)

theorem keys_memberFields (style : NamingStyle) (scope : FieldScope)
    (members : List (Text × Json)) :
    (memberFields style scope members).map (·.key) = members.map (·.1) := by
  induction members generalizing scope with
  | nil => rfl
  | cons member members ih => exact congrArg (member.1 :: ·) (ih _)

theorem types_memberFields (style : NamingStyle) (scope : FieldScope)
    (members : List (Text × Json)) :
    (memberFields style scope members).map (·.type) =
      members.map fun member => sampledType style true member.2 (.ofKey member.1) := by
  induction members generalizing scope with
  | nil => rfl
  | cons member members ih => exact congrArg (_ :: ·) (ih _)

/-- Declarations of one object under two styles. -/
def Restyled (style style' : NamingStyle) (d d' : Declaration) : Prop :=
  ∃ o : SampledObject, o.NamedAsKey style ∧ o.NamedAsKey style' ∧ d = o.declaration style ∧
    d' = o.declaration style'

theorem Restyled.renamed {rename : Text → Text} {d d' : Declaration}
    (hrename : ∀ name name', style.Alike style' name name' → rename name = name')
    (h : Restyled style style' d d') : d.Renamed rename d' := by
  obtain ⟨o, hnamed, hnamed', rfl, rfl⟩ := h
  have hkey : ∀ o : SampledObject, o.NamedAsKey style → o.NamedAsKey style' →
      rename (o.name style) = o.name style' := by
    intro o hnamed hnamed'
    rw [hnamed, hnamed']
    exact hrename _ _ ⟨o.hint, rfl, rfl⟩
  refine ⟨?_, ?_, ?_⟩
  · rw [o.name_declaration, o.name_declaration]
    exact (hkey o hnamed hnamed').symm
  · rw [o.fields_declaration, o.fields_declaration, keys_memberFields, keys_memberFields]
  · have htypes : (o.declaration style).fields.map (·.type.rename rename) =
        ((o.declaration style).fields.map (·.type)).map (FieldType.rename rename) := by
      rw [List.map_map]
      rfl
    rw [htypes, o.fields_declaration, o.fields_declaration, types_memberFields, types_memberFields,
      List.map_map]
    refine List.map_congr_left fun member _ => sampledType_rename member.2 _ fun held hheld => ?_
    exact hkey held (namedAsKey_of_of? style hheld) (namedAsKey_of_of? style' hheld)

/-- One more name is noted of both, or of neither. -/
theorem forall₂_noteDependency {alike : Text → Text → Prop} (hunique : Relator.BiUnique alike)
    {names names' : List Text} {reference reference' : Option Text}
    (hnames : List.Forall₂ alike names names') (href : Option.Rel alike reference reference') :
    List.Forall₂ alike (Declaration.noteDependency names reference)
      (Declaration.noteDependency names' reference') := by
  cases href with
  | none => exact hnames
  | @some name name' hname =>
    have hmem : name ∈ names ↔ name' ∈ names' := List.rel_mem hunique hname hnames
    by_cases h : name ∈ names
    · rwa [Declaration.noteDependency_of_mem h, Declaration.noteDependency_of_mem (hmem.mp h)]
    · rw [Declaration.noteDependency_of_notMem h,
        Declaration.noteDependency_of_notMem (mt hmem.mpr h)]
      exact List.rel_append hnames (.cons hname .nil)

theorem rel_memberName? (member : Text × Json) :
    Option.Rel (style.Alike style') (memberName? style member) (memberName? style' member) := by
  rw [memberName?, memberName?]
  cases h : SampledObject.of? member.2 (.ofKey member.1) true with
  | none => exact .none
  | some o =>
    refine .some ⟨o.hint, ?_, ?_⟩
    · exact (namedAsKey_of_of? style h).symm
    · exact (namedAsKey_of_of? style' h).symm

theorem SampledObject.dependencies_declaration (style : NamingStyle) (o : SampledObject) :
    (o.declaration style).dependencies =
      (o.members.map (memberName? style)).foldl Declaration.noteDependency [] := by
  rw [declaration, Declaration.dependencies_addFields, references_memberFields]

/-- The styles rename declarations of one object. -/
theorem isRenaming_restyled (style style' : NamingStyle) :
    IsRenaming (style.Alike style') (Restyled style style') := by
  have hunique := NamingStyle.biUnique_alike style style'
  refine ⟨hunique, ?_, ?_⟩
  · rintro _ _ ⟨o, hnamed, hnamed', rfl, rfl⟩
    rw [o.name_declaration, o.name_declaration, hnamed, hnamed']
    exact ⟨o.hint, rfl, rfl⟩
  · rintro _ _ ⟨o, _, _, rfl, rfl⟩
    rw [o.dependencies_declaration, o.dependencies_declaration]
    have hall : ∀ (members : List (Text × Json)) (names names' : List Text),
        List.Forall₂ (style.Alike style') names names' →
          List.Forall₂ (style.Alike style')
            ((members.map (memberName? style)).foldl Declaration.noteDependency names)
            ((members.map (memberName? style')).foldl Declaration.noteDependency names') := by
      intro members
      induction members with
      | nil => exact fun _ _ h => h
      | cons member members ih =>
        exact fun _ _ h => ih _ _ (forall₂_noteDependency hunique h (rel_memberName? member))
    exact hall o.members [] [] .nil

/-! ## Stores and schemas -/

/-- What is declared for the owners under two styles. -/
theorem Survey.restyled {ds ds' : List Declaration} {owners : List Site}
    (hroot : ∀ o, root = some o → o.NamedAsKey style)
    (hroot' : ∀ o, root = some o → o.NamedAsKey style')
    (h : Survey style root ds (fun _ => True) owners)
    (h' : Survey style' root ds' (fun _ => True) owners) :
    List.Forall₂ (Restyled style style') ds ds' := by
  have hdeclared := h.declared
  have hdeclared' := h'.declared
  clear h h'
  induction owners generalizing ds ds' with
  | nil =>
    rw [List.map_nil, List.map_eq_nil_iff] at hdeclared hdeclared'
    rw [hdeclared, hdeclared']
    exact .nil
  | cons a owners ih =>
    rw [List.map_cons] at hdeclared hdeclared'
    obtain ⟨d, ds, rfl, hd, hds⟩ := List.map_eq_cons_iff.mp hdeclared
    obtain ⟨d', ds', rfl, hd', hds'⟩ := List.map_eq_cons_iff.mp hdeclared'
    obtain ⟨o, ho, rfl⟩ := Option.map_eq_some_iff.mp hd.symm
    rw [ho] at hd'
    refine .cons ⟨o, namedAsKey_of_objectAt? hroot ho, namedAsKey_of_objectAt? hroot' ho, rfl,
      Option.some.inj hd'⟩ (ih hds hds')

/-- The owners are the same under both styles, so what is declared corresponds one by one. -/
theorem forall₂_restyled {rootName : Text} {value : Json}
    (hroot : ∀ o, rootObject rootName value = some o → o.NamedAsKey style)
    (hroot' : ∀ o, rootObject rootName value = some o → o.NamedAsKey style') :
    List.Forall₂ (Restyled style style')
      (Walk.last style rootName value).findings.shapes.declarations
      (Walk.last style' rootName value).findings.shapes.declarations := by
  obtain ⟨owners, survey⟩ := exists_survey_last style rootName value
  obtain ⟨owners', survey'⟩ := exists_survey_last style' rootName value
  have hbuilt := (Walk.sound_last style rootName value).built
  have hbuilt' := (Walk.sound_last style' rootName value).built
  have howns : IsOwnership style (rootObject rootName value) (· ∈ owners) :=
    (survey.isOwnership_iff hbuilt.nodup_names _).mpr fun _ => Iff.rfl
  have hsame : owners = owners' := by
    refine List.Pairwise.eq_of_mem_iff survey.sorted survey'.sorted ?_
    exact (survey'.isOwnership_iff hbuilt'.nodup_names _).mp (howns.restyle hroot hroot')
  subst hsame
  exact survey.restyled hroot hroot' survey'

/-- What takes the place of a name. -/
noncomputable def NamingStyle.counterpart (style style' : NamingStyle) (name : Text) : Text :=
  open Classical in if h : ∃ name', style.Alike style' name name' then h.choose else name

theorem NamingStyle.counterpart_eq {name name' : Text} (h : style.Alike style' name name') :
    style.counterpart style' name = name' := by
  have hsome : ∃ name', style.Alike style' name name' := ⟨name', h⟩
  rw [counterpart, dif_pos hsome]
  exact (biUnique_alike style style').2 hsome.choose_spec h

/-- The same schema under other names: the declarations stand in the same order, and the same
references are skipped. -/
structure Schema.Renamed (rename : Text → Text) (schema schema' : Schema) : Prop where
  names : Set.BijOn rename {name | name ∈ schema.names} {name | name ∈ schema'.names}
  rootName : schema'.rootName = rename schema.rootName
  declarations : List.Forall₂ (Declaration.Renamed rename) schema.declarations schema'.declarations
  skipped : schema'.skipped = schema.skipped.map fun e => (rename e.1, rename e.2)

/-- Lists of which the members correspond one by one hold the same up to what corresponds. -/
theorem bijOn_of_forall₂ {alike : Text → Text → Prop} (hunique : Relator.BiUnique alike)
    {f : Text → Text} (hf : ∀ a b, alike a b → f a = b) {as bs : List Text}
    (h : List.Forall₂ alike as bs) : Set.BijOn f {a | a ∈ as} {b | b ∈ bs} := by
  have hall : ∀ a ∈ as, alike a (f a) := by
    induction h with
    | nil => simp
    | cons hab _ ih => exact List.forall_mem_cons.mpr ⟨(hf _ _ hab).symm ▸ hab, ih⟩
  have hmap : bs = as.map f := by
    refine List.forall₂_eq_eq_eq ▸ ?_
    rw [List.forall₂_map_right_iff]
    exact h.flip.imp fun b a hab => (hf a b hab).symm
  refine ⟨fun a ha => ?_, fun a ha b hb he => ?_, fun b hb => ?_⟩
  · rw [hmap]
    exact List.mem_map_of_mem ha
  · exact hunique.1 (hall a ha) (he ▸ hall b hb)
  · rw [hmap] at hb
    obtain ⟨a, ha, rfl⟩ := List.mem_map.mp hb
    exact ⟨a, ha, rfl⟩

theorem ofValue_renamed_of_some {rootName : Text} {value : Json} {o : SampledObject}
    (h : rootObject rootName value = some o) (hnamed : o.NamedAsKey style)
    (hnamed' : o.NamedAsKey style') :
    (Schema.ofValue style rootName value).Renamed (style.counterpart style')
      (Schema.ofValue style' rootName value) := by
  have hroot : ∀ p, rootObject rootName value = some p → p.NamedAsKey style := by
    intro p hp
    rwa [← Option.some.inj (h.symm.trans hp)]
  have hroot' : ∀ p, rootObject rootName value = some p → p.NamedAsKey style' := by
    intro p hp
    rwa [← Option.some.inj (h.symm.trans hp)]
  have hrenaming := isRenaming_restyled style style'
  obtain ⟨hdeclarations, hskipped⟩ := Shapes.emission_matches hrenaming (forall₂_restyled hroot hroot')
  have hschema : ∀ style : NamingStyle, (Schema.ofValue style rootName value).declarations =
      (Walk.last style rootName value).findings.shapes.emission.declarations ∧
      (Schema.ofValue style rootName value).skipped =
        (Walk.last style rootName value).findings.shapes.emission.skipped ∧
      (Schema.ofValue style rootName value).rootName = o.name style := by
    intro style
    simp only [Schema.ofValue, inferRoot_of_some h, and_self]
  obtain ⟨hds, hsk, hrn⟩ := hschema style
  obtain ⟨hds', hsk', hrn'⟩ := hschema style'
  rw [← hds, ← hds'] at hdeclarations
  rw [← hsk, ← hsk'] at hskipped
  have hcounterpart : ∀ name name', style.Alike style' name name' →
      style.counterpart style' name = name' := fun _ _ => NamingStyle.counterpart_eq
  refine ⟨?_, ?_, hdeclarations.imp fun _ _ => Restyled.renamed hcounterpart, ?_⟩
  · refine bijOn_of_forall₂ hrenaming.unique hcounterpart ?_
    rw [Schema.names, Schema.names, List.forall₂_map_left_iff, List.forall₂_map_right_iff]
    exact hdeclarations.imp fun _ _ => hrenaming.name
  · rw [hrn, hrn', hnamed, hnamed']
    exact (hcounterpart _ _ ⟨o.hint, rfl, rfl⟩).symm
  · refine List.forall₂_eq_eq_eq ▸ ?_
    rw [List.forall₂_map_right_iff]
    refine hskipped.flip.imp fun e' e he => ?_
    exact (Prod.ext (hcounterpart _ _ he.1) (hcounterpart _ _ he.2)).symm

/-- A wrapper refers to nothing, so there is only its name to take the place of. -/
theorem ofValue_renamed_of_none {rootName : Text} {value : Json}
    (h : rootObject rootName value = none) :
    (Schema.ofValue style rootName value).Renamed
      (fun _ => style'.declarationName rootName false) (Schema.ofValue style' rootName value) := by
  have hschema : ∀ style : NamingStyle, (Schema.ofValue style rootName value).declarations =
      [{ name := style.declarationName rootName false,
         fields := [wrapperField style rootName value] }] ∧
      (Schema.ofValue style rootName value).skipped = [] ∧
      (Schema.ofValue style rootName value).rootName = style.declarationName rootName false := by
    intro style
    have hemission : (inferRoot style value rootName {}).2.shapes.emission =
        ⟨[{ name := style.declarationName rootName false,
            fields := [wrapperField style rootName value] }], []⟩ := emission_of_none h
    refine ⟨congrArg Emission.declarations hemission, congrArg Emission.skipped hemission, ?_⟩
    show (inferRoot style value rootName {}).1 = _
    rw [inferRoot_of_none h]
  obtain ⟨hds, hsk, hrn⟩ := hschema style
  obtain ⟨hds', hsk', hrn'⟩ := hschema style'
  refine ⟨?_, hrn', ?_, ?_⟩
  · rw [Schema.names, Schema.names, hds, hds']
    simp
  · rw [hds, hds']
    refine .cons ⟨rfl, rfl, congrArg (fun type => [type]) ?_⟩ .nil
    refine sampledType_rename value ⟨rootName, none⟩ fun o ho => ?_
    exact absurd (h.symm.trans ho) (by simp)
  · rw [hsk, hsk']
    rfl

/-- **Two styles that name the root as a key give one schema under different names**: the suffix, the
lead and the trail only rename. -/
theorem ofValue_restyled (style style' : NamingStyle) (rootName : Text) (value : Json)
    (hroot : ∀ o, rootObject rootName value = some o →
      style.declarationName o.hint false = style.declarationName o.hint true)
    (hroot' : ∀ o, rootObject rootName value = some o →
      style'.declarationName o.hint false = style'.declarationName o.hint true) :
    ∃ rename, (Schema.ofValue style rootName value).Renamed rename
      (Schema.ofValue style' rootName value) := by
  cases h : rootObject rootName value with
  | none => exact ⟨_, ofValue_renamed_of_none h⟩
  | some o =>
    have hkey : o.fromKey = false := fromKey_of_of? h
    refine ⟨_, ofValue_renamed_of_some h ?_ ?_⟩
    · rw [SampledObject.NamedAsKey, SampledObject.name, hkey]
      exact hroot o h
    · rw [SampledObject.NamedAsKey, SampledObject.name, hkey]
      exact hroot' o h

/-- A node that holds one of its own shape, so that a reference is skipped. -/
def nodeValue : Json := .obj [("next", .obj [("next", .obj [("id", .int 1)])])]

theorem ofValue_restyled_node : ∃ rename,
    (Schema.ofValue { convention := Target.typescript.convention } "Node" nodeValue).Renamed rename
      (Schema.ofValue { convention := Target.java.convention, suffix := "V1" } "Node" nodeValue) := by
  refine ofValue_restyled _ _ "Node" nodeValue (fun o ho => ?_) (fun o ho => ?_)
  · rw [← Option.some.inj ho]
    decide +kernel
  · rw [← Option.some.inj ho]
    decide +kernel

end SampleTypes
