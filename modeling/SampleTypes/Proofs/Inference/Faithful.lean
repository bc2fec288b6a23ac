import SampleTypes.Proofs.Inference.Ownership

/-!
# What inference finds

The two ways in which a walk begins, and what it has found when it ends. A root that is judged by an
object opens that object, and from there `Progress` is kept to the end; any other root opens
nothing, and is wrapped afterwards. The main statement of the directory stands at the end:

> **the declarations of a value are those of the objects that own one**,

which says of every declaration whose it is and what its fields are, without a word of the walk.
-/

set_option autoImplicit false

namespace SampleTypes

/-! ## How a walk begins -/

/-- The object by which the root of a sample is judged. -/
def rootObject (rootName : Text) (value : Json) : Option SampledObject :=
  SampledObject.of? value ⟨rootName, none⟩ false

namespace Walk

/-- The state of the walk before its first step. -/
def start (style : NamingStyle) (rootName : Text) (value : Json) : Walk :=
  (meet style value ⟨rootName, none⟩ false { findings := {} }).2

theorem start_of_none {style : NamingStyle} {rootName : Text} {value : Json}
    (h : rootObject rootName value = none) : start style rootName value = { findings := {} } := by
  rw [start, meet_eq]
  unfold rootObject at h
  rw [h]
  rfl

theorem start_of_some {style : NamingStyle} {rootName : Text} {value : Json} {o : SampledObject}
    (h : rootObject rootName value = some o) : start style rootName value =
      { findings := ({} : Findings).declare (o.name style), frames := [o.frame style 0] } := by
  rw [start, meet_eq]
  unfold rootObject at h
  rw [h]
  rfl

theorem sound_start (style : NamingStyle) (rootName : Text) (value : Json) :
    (start style rootName value).Sound := by
  cases h : rootObject rootName value with
  | none =>
    rw [start_of_none h]
    exact ⟨.empty, List.nil_subset _, .nil⟩
  | some o =>
    rw [start_of_some h]
    refine ⟨Shapes.Built.empty.insert (.empty _), ?_, List.nodup_singleton _⟩
    exact List.Subset.refl _

/-- The declaration of the root's object is all there is at first. -/
theorem completed_start {style : NamingStyle} {rootName : Text} {value : Json} {o : SampledObject}
    (h : rootObject rootName value = some o) :
    (start style rootName value).completed style = [o.declaration style] := by
  rw [start_of_some h]
  show [(o.frame style 0).fill style { name := o.name style }] = _
  rw [Frame.fill, if_pos (by rfl)]
  rfl

end Walk

theorem Progress.start (style : NamingStyle) (rootName : Text) (value : Json) :
    Progress style (rootObject rootName value) (Walk.start style rootName value) := by
  cases h : rootObject rootName value with
  | none =>
    rw [Walk.start_of_none h]
    refine .done rfl (Survey.start.pass (fun _ h => h.elim) fun a _ => Or.inr ?_)
    exact objectAt?_eq_none_of_isPrefix List.nil_prefix rfl
  | some o =>
    have hroot : objectAt? (some o) [] = some o := rfl
    have hbefore : Survey style (some o) [] (· < []) [] :=
      Survey.start.pass (fun _ h => h.elim) fun a ha => absurd ha (List.not_lt_nil a)
    have hown := hbefore.own hroot (Or.inl rfl) (by simp)
    have htrail : Trail style (some o) (Walk.start style rootName value).frames [] 0 := by
      rw [Walk.start_of_some h]
      exact .root 0 hroot
    have hsurvey : Survey style (some o) ((Walk.start style rootName value).completed style)
        (· < [] ++ [0]) [[]] := by
      rw [Walk.completed_start h]
      exact hown.pass (fun x hx => Site.lt_snoc_zero.mpr hx)
        fun x hx => Or.inl (Site.lt_snoc_zero.mp hx)
    refine .going htrail (fun b hb => ?_) hsurvey
    rw [List.prefix_nil.mp hb]
    exact List.mem_singleton_self _

/-! ## What it ends with -/

namespace Walk

/-- The state of the walk after its last step. -/
def last (style : NamingStyle) (rootName : Text) (value : Json) : Walk :=
  run style (start style rootName value).weight (start style rootName value)

theorem frames_last (style : NamingStyle) (rootName : Text) (value : Json) :
    (last style rootName value).frames = [] :=
  frames_run style _ (Nat.le_refl _)

theorem sound_last (style : NamingStyle) (rootName : Text) (value : Json) :
    (last style rootName value).Sound :=
  run_induction (fun _ _ h hm => h.move hm) _ (sound_start style rootName value)

end Walk

/-- **All is passed in the end**, and the stored declarations are those of the owners. -/
theorem exists_survey_last (style : NamingStyle) (rootName : Text) (value : Json) :
    ∃ owners, Survey style (rootObject rootName value)
      (Walk.last style rootName value).findings.shapes.declarations (fun _ => True) owners := by
  have hprogress : (Walk.last style rootName value).Sound ∧
      Progress style (rootObject rootName value) (Walk.last style rootName value) := by
    refine Walk.run_induction
      (P := fun walk => walk.Sound ∧ Progress style (rootObject rootName value) walk) ?_ _ ?_
    · exact fun walk walk' h hm => ⟨h.1.move hm, h.2.move h.1 hm⟩
    · exact ⟨Walk.sound_start style rootName value, Progress.start style rootName value⟩
  have hframes := Walk.frames_last style rootName value
  cases hprogress.2 with
  -- A walk that is going has an open object, and at the end there is none.
  | going trail _ _ =>
    obtain ⟨o, outer, ho, _⟩ := trail.innermost
    rw [hframes] at ho
    exact absurd ho (by simp)
  | done _ survey =>
    rw [Walk.completed_of_done hframes] at survey
    exact ⟨_, survey⟩

theorem inferAt_eq_last (style : NamingStyle) (rootName : Text) (value : Json) :
    inferAt style value ⟨rootName, none⟩ false {} =
      (sampledType style false value ⟨rootName, none⟩,
        (Walk.last style rootName value).findings) := by
  rw [inferAt, Walk.last, Walk.start, Walk.meet_eq]
  rfl

/-- A root that is judged by an object has the declaration of that object. -/
theorem inferRoot_of_some {style : NamingStyle} {rootName : Text} {value : Json} {o : SampledObject}
    (h : rootObject rootName value = some o) : inferRoot style value rootName {} =
      (o.name style, (Walk.last style rootName value).findings) := by
  have href : (sampledType style false value ⟨rootName, none⟩).reference? =
      some (o.name style) := by
    rw [reference?_sampledType]
    exact congrArg (Option.map (·.name style)) h
  rw [inferRoot, infer]
  simp only [Option.isSome_none, inferAt_eq_last, href]

/-- The field that wraps a root that is judged by no object. -/
def wrapperField (style : NamingStyle) (rootName : Text) (value : Json) : Field :=
  ⟨(style.fieldScope.assign ("value" : Text)).1, ("value" : Text),
    sampledType style false value ⟨rootName, none⟩⟩

theorem reference?_of_none {style : NamingStyle} {rootName : Text} {value : Json}
    (h : rootObject rootName value = none) :
    (sampledType style false value ⟨rootName, none⟩).reference? = none := by
  rw [reference?_sampledType]
  exact congrArg (Option.map (·.name style)) h

/-- A root that is judged by no object is wrapped, and nothing else is declared. -/
theorem inferRoot_of_none {style : NamingStyle} {rootName : Text} {value : Json}
    (h : rootObject rootName value = none) : inferRoot style value rootName {} =
      (style.declarationName rootName false,
        ((({} : Findings).declare (style.declarationName rootName false)).addField
            (style.declarationName rootName false) (wrapperField style rootName value)).note
          (.wrapped (style.declarationName rootName false))) := by
  have hlast : (Walk.last style rootName value).findings = {} := by
    rw [Walk.last, Walk.start_of_none h]
    rfl
  rw [inferRoot, infer]
  simp only [Option.isSome_none, inferAt_eq_last, reference?_of_none h, hlast]
  rfl

theorem declarations_of_none {style : NamingStyle} {rootName : Text} {value : Json}
    (h : rootObject rootName value = none) :
    (inferRoot style value rootName {}).2.shapes.declarations =
      [{ name := style.declarationName rootName false,
         fields := [wrapperField style rootName value] }] := by
  have href : (wrapperField style rootName value).type.reference? = none := reference?_of_none h
  rw [inferRoot_of_none h]
  show [if _ = _ then Declaration.addField _ _ else _] = _
  rw [if_pos rfl, Declaration.addField, href]
  rfl

theorem built_inferRoot (style : NamingStyle) (rootName : Text) (value : Json) :
    (inferRoot style value rootName {}).2.shapes.Built := by
  cases h : rootObject rootName value with
  | none =>
    rw [inferRoot_of_none h]
    exact (Shapes.Built.empty.insert (.empty _)).addField _ _
  | some o =>
    rw [inferRoot_of_some h]
    exact (Walk.sound_last style rootName value).built

/-! ## The main statement -/

/-- The declaration is that of the object at a site: it has its name, and a field for each of its
members, in their order, that keeps the key and has the type that the value gives. -/
def Declares (style : NamingStyle) (root : Option SampledObject) (a : Site) (d : Declaration) :
    Prop :=
  ∃ o, objectAt? root a = some o ∧ d.name = o.name style ∧
    List.Forall₂ (fun member field => field.key = member.1 ∧
      Gives style true member.2 (.ofKey member.1) field.type) o.members d.fields

/-- What is stored for an owner is a declaration of its object. -/
theorem Survey.forall₂_declares {style : NamingStyle} {root : Option SampledObject}
    {ds : List Declaration} {past : Site → Prop} {owners : List Site}
    (h : Survey style root ds past owners) : List.Forall₂ (Declares style root) owners ds := by
  have hsame := List.forall₂_eq_eq_eq ▸ h.declared
  rw [List.forall₂_map_left_iff, List.forall₂_map_right_iff] at hsame
  refine hsame.flip.imp fun a d hd => ?_
  obtain ⟨o, ho, rfl⟩ := Option.map_eq_some_iff.mp (Eq.symm hd)
  refine ⟨o, ho, o.name_declaration style, ?_⟩
  rw [SampledObject.fields_declaration]
  exact forall₂_memberFields style style.fieldScope o.members

/-- **Inference declares the owners, and nothing else.** There is one ownership; its objects, in the
order of the document, are those whose declarations are found, and each declaration is true to its
object. Only where the root is judged by no object there is another declaration, the one that wraps
it. -/
theorem inferRoot_faithful (style : NamingStyle) (rootName : Text) (value : Json) :
    ∃ owners : List Site, owners.Pairwise (· < ·) ∧
      (∀ owns, IsOwnership style (rootObject rootName value) owns ↔ ∀ a, owns a ↔ a ∈ owners) ∧
      match rootObject rootName value with
      | some o => List.Forall₂ (Declares style (some o)) owners
          (inferRoot style value rootName {}).2.shapes.declarations
      | none => owners = [] ∧ ∃ fieldName type,
          Gives style false value ⟨rootName, none⟩ type ∧
          (inferRoot style value rootName {}).2.shapes.declarations =
            [{ name := style.declarationName rootName false,
               fields := [⟨fieldName, ("value" : Text), type⟩] }] := by
  obtain ⟨owners, survey⟩ := exists_survey_last style rootName value
  refine ⟨owners, survey.sorted, ?_, ?_⟩
  · exact survey.isOwnership_iff (Walk.sound_last style rootName value).built.nodup_names
  · cases h : rootObject rootName value with
    | some o =>
      rw [h] at survey
      dsimp only
      rw [inferRoot_of_some h]
      exact survey.forall₂_declares
    | none =>
      dsimp only
      refine ⟨?_, (style.fieldScope.assign ("value" : Text)).1, _,
        gives_sampledType style false value ⟨rootName, none⟩, ?_⟩
      · refine List.eq_nil_iff_forall_not_mem.mpr fun a ha => ?_
        have hsome := (survey.met a ha).isSome
        rw [h, objectAt?_eq_none_of_isPrefix List.nil_prefix rfl] at hsome
        exact absurd hsome (by simp)
      · exact declarations_of_none h

end SampleTypes
