import SampleTypes.Generation.Schema
import SampleTypes.Proofs.Inference.References
import SampleTypes.Proofs.Schema.Mirror

/-!
# The order of a schema

> **Declarations are emitted in the order in which the walk closes their objects, and the references
> skipped are those that it added to open objects.**

`Mirrors` relates the walk to the traversal that begins at the root's declaration. What is left is
that this is the whole order: the root's declaration is the first in the store, and when the
traversal is done with it, nothing is left to visit.

That no reference is skipped iff no object holds one of its own name, or of the name of an object
around it, goes one way through the walk, which comes to every such object with all those around it
open, and the other way through the order, in which every object would come before those around it.
-/

set_option autoImplicit false

namespace SampleTypes

/-! ## The whole order -/

theorem Mirrors.start {style : NamingStyle} {rootName : Text} {value : Json} {o : SampledObject}
    (h : rootObject rootName value = some o) {shapes : Shapes}
    (hin : (Walk.start style rootName value).completed style ⊆ shapes.declarations) :
    Mirrors style shapes (Walk.start style rootName value)
      (({} : Traversal).push (o.declaration style)) [] [] := by
  rw [Walk.completed_start h] at hin
  rw [Walk.start_of_some h]
  refine ⟨.push .start rfl (hin List.mem_cons_self) rfl, ?_, fun name => ?_, rfl, rfl⟩
  · exact .cons ⟨o, 0, rfl, rfl, rfl⟩ .nil
  · show name ∈ [o.name style] ↔ name ∈ [(o.declaration style).name]
    rw [o.name_declaration style]

/-- A traversal that mirrors the whole walk is the whole traversal. -/
theorem Mirrors.emission_eq {style : NamingStyle} {shapes : Shapes} {walk : Walk} {d : Declaration}
    {k : Nat} {closed : List Declaration} {met : List Edge}
    (h : Mirrors style shapes walk
      ((Traversal.step shapes)^[k] (({} : Traversal).push d)) closed met)
    (hdone : walk.frames = []) (hall : walk.findings.shapes = shapes)
    (hfirst : [d] <+: shapes.declarations) : shapes.emission = ⟨closed, met.eraseDups⟩ := by
  obtain ⟨rest, hrest⟩ := hfirst
  have hd : d ∈ shapes.declarations := hrest ▸ List.mem_cons_self
  generalize ht : (Traversal.step shapes)^[k] (({} : Traversal).push d) = t at h
  have hframes : t.frames = [] := by
    have hf := h.frames
    rw [hdone] at hf
    exact List.forall₂_nil_left_iff.mp hf
  have hvisit : Traversal.visit shapes {} d = t := by
    have hclosed := (Traversal.Reached.start.visit rfl hd).2.1
    have hrun : Traversal.visit shapes {} d =
        (Traversal.step shapes)^[Traversal.effort shapes] (({} : Traversal).push d) :=
      Traversal.run_eq_iterate shapes _ _
    rw [hrun] at hclosed ⊢
    rw [← ht] at hframes ⊢
    exact Traversal.iterate_eq_of_done hclosed hframes
  -- The traversal began with everything that the walk declared, which is all there is.
  have hfinished : ∀ e ∈ rest, t.isFinished e.name = true := by
    intro e he
    have hname : e.name ∈ walk.findings.shapes.names := by
      rw [hall, Shapes.names, ← hrest]
      exact List.mem_map_of_mem (List.mem_append_right _ he)
    rcases Traversal.mem_names_iff.mp ((h.names e.name).mp hname) with hfin | hopen
    · exact hfin
    · rw [Traversal.isOpen, hframes] at hopen
      exact absurd hopen (by simp)
  have hfold : shapes.declarations.foldl (Traversal.visit shapes) {} = t := by
    rw [← hrest, List.singleton_append, List.foldl_cons, hvisit]
    exact Traversal.visitAll_of_finished shapes hfinished
  rw [Shapes.emission, hfold, ← h.closed, ← h.met]

theorem emission_of_some {style : NamingStyle} {rootName : Text} {value : Json} {o : SampledObject}
    (h : rootObject rootName value = some o) :
    (Walk.last style rootName value).findings.shapes.emission =
        ⟨(Walk.states style rootName value).filterMap Walk.closing?,
          ((Walk.states style rootName value).filterMap (Walk.backReference? style)).eraseDups⟩ ∧
      (Walk.last style rootName value).findings.shapes.emission.declarations.getLast? =
        some (o.declaration style) := by
  have hsound := Walk.sound_start style rootName value
  have hdone := Walk.frames_last style rootName value
  have hall : (Walk.last style rootName value).completed style =
      (Walk.last style rootName value).findings.shapes.declarations := Walk.completed_of_done hdone
  have hprefix : (Walk.start style rootName value).completed style <+:
      (Walk.last style rootName value).findings.shapes.declarations := by
    rw [← hall]
    exact hsound.completed_isPrefix_run _
  obtain ⟨k, hk⟩ := Mirrors.run (Walk.sound_last style rootName value).built _
    (Mirrors.start h hprefix.subset) hsound fun _ hd => hall ▸ hd
  rw [Walk.completed_start h] at hprefix
  have hemission := hk.emission_eq hdone rfl hprefix
  refine ⟨hemission, ?_⟩
  -- The root's declaration was begun first, so it is finished last.
  have hsequence := Traversal.sequence_of_done (List.forall₂_nil_left_iff.mp (hdone ▸ hk.frames))
  rw [hemission]
  dsimp only
  rw [← hk.closed, ← hsequence, Traversal.getLast?_sequence_iterate]
  rfl

theorem emission_of_none {style : NamingStyle} {rootName : Text} {value : Json}
    (h : rootObject rootName value = none) :
    (inferRoot style value rootName {}).2.shapes.emission =
      ⟨[{ name := style.declarationName rootName false,
          fields := [wrapperField style rootName value] }], []⟩ := by
  have hbuilt := built_inferRoot style rootName value
  have hperm := Traversal.perm_emission hbuilt.nodup_names
  have hskipped : (inferRoot style value rootName {}).2.shapes.emission.skipped = [] := by
    refine List.eq_nil_iff_forall_not_mem.mpr fun e he => ?_
    have hedge := ((Shapes.mem_skipped_emission_iff hbuilt).mp he).1
    rw [declarations_of_none h] at hedge
    exact absurd hedge (by simp [edgesOf])
  rw [declarations_of_none h, List.perm_singleton] at hperm
  rw [← hperm, ← hskipped]

/-! ## Names that come again below themselves -/

namespace Survey

variable {style : NamingStyle} {root : Option SampledObject} {shapes : Shapes} {owners : List Site}

/-- If nothing is skipped, everything comes after what it refers to. -/
theorem precedes_of_edge (h : Survey style root shapes.declarations (fun _ => True) owners)
    (hb : shapes.Built) (hnone : shapes.emission.skipped = []) {source target : Text}
    (he : (source, target) ∈ edgesOf shapes.declarations) :
    Precedes (shapes.emission.declarations.map (·.name)) target source := by
  by_contra hp
  have hskipped := (Shapes.mem_skipped_emission_iff hb).mpr ⟨he, h.closed he, hp⟩
  rw [hnone] at hskipped
  exact absurd hskipped (by simp)

/-- If nothing is skipped, every owner comes before those around it. -/
theorem precedes_of_append (h : Survey style root shapes.declarations (fun _ => True) owners)
    (hb : shapes.Built) (hnone : shapes.emission.skipped = []) {a c : Site} (hc : c ≠ [])
    (ha : a ++ c ∈ owners) {outer inner : Text} (houter : nameAt? style root a = some outer)
    (hinner : nameAt? style root (a ++ c) = some inner) :
    Precedes (shapes.emission.declarations.map (·.name)) inner outer := by
  induction c using List.reverseRecOn generalizing inner with
  | nil => exact absurd rfl hc
  | append_singleton c i ih =>
    rw [← List.append_assoc] at ha hinner
    have hholder : a ++ c ∈ owners := (h.met _ ha).holder
    obtain ⟨o, ho⟩ := Option.isSome_iff_exists.mp (h.met _ hholder).isSome
    have hname : nameAt? style root (a ++ c) = some (o.name style) := nameAt?_of_some ho
    have hstep : Precedes (shapes.emission.declarations.map (·.name)) inner (o.name style) :=
      h.precedes_of_edge hb hnone (h.mem_edgesOf.mpr ⟨a ++ c, hholder, i, hname, hinner⟩)
    by_cases hc : c = []
    · subst hc
      rw [List.append_nil, houter] at hname
      rwa [Option.some.inj hname]
    · exact hstep.trans (Shapes.nodup_names_emission hb) (ih hc hholder hname)

theorem nameAt?_ne_of_isPrefix (h : Survey style root shapes.declarations (fun _ => True) owners)
    (hb : shapes.Built) (hnone : shapes.emission.skipped = []) {a p : Site} (ha : a ∈ owners)
    (hp : p <+: a) {i : Nat} {name : Text} (hname : nameAt? style root (a ++ [i]) = some name) :
    nameAt? style root p ≠ some name := by
  intro hsame
  have hnodup := Shapes.nodup_names_emission hb
  obtain ⟨o, ho⟩ := Option.isSome_iff_exists.mp (h.met _ ha).isSome
  have hholder : nameAt? style root a = some (o.name style) := nameAt?_of_some ho
  have hbefore : Precedes (shapes.emission.declarations.map (·.name)) name (o.name style) :=
    h.precedes_of_edge hb hnone (h.mem_edgesOf.mpr ⟨a, ha, i, hholder, hname⟩)
  -- The name would come before the holder's, which comes before it or is the same.
  obtain ⟨c, rfl⟩ := hp
  by_cases hc : c = []
  · subst hc
    rw [List.append_nil, hsame] at hholder
    rw [← Option.some.inj hholder] at hbefore
    exact Precedes.irrefl hnodup name hbefore
  · exact hbefore.asymm hnodup (h.precedes_of_append hb hnone hc ha hsame hholder)

end Survey

/-- The walk adds a reference to an open object where an owner holds an object of the name of one
around it. -/
theorem Progress.exists_of_backReference {style : NamingStyle} {root : Option SampledObject}
    {walk : Walk} (h : Progress style root walk) {owns : Site → Prop}
    (ho : IsOwnership style root owns) {e : Edge} (he : walk.backReference? style = some e) :
    ∃ a i p, owns a ∧ p <+: a ∧ nameAt? style root (a ++ [i]) = some e.2 ∧
      nameAt? style root p = some e.2 := by
  cases h with
  | done hd _ =>
    rw [Walk.backReference?, hd] at he
    exact absurd he (by simp)
  | @going a j owners trail around survey =>
    obtain ⟨o, outer, hf, _⟩ := trail.innermost
    generalize o.frame style j = frame at hf
    obtain ⟨name, scope, members⟩ := frame
    cases members with
    | nil =>
      rw [Walk.backReference?_of_close hf] at he
      exact absurd he (by simp)
    | cons member members =>
      obtain ⟨key, value⟩ := member
      obtain ⟨_, href, hopen⟩ := (Walk.backReference?_eq_some_iff hf).mp he
      obtain ⟨p, hp, hname⟩ := trail.exists_isPrefix hopen
      refine ⟨a, j, p, ?_, hp, ?_, hname⟩
      · exact (survey.decided owns ho a (Site.lt_snoc a j)).mpr (around a (List.prefix_refl a))
      · rw [nameAt?, (trail.next hf).1]
        exact href

/-! ## The main statement -/

theorem states_of_none {style : NamingStyle} {rootName : Text} {value : Json}
    (h : rootObject rootName value = none) : Walk.states style rootName value = [] := by
  rw [Walk.states, Walk.start_of_none h]
  rfl

theorem skipped_ofValue (style : NamingStyle) (rootName : Text) (value : Json) :
    (Schema.ofValue style rootName value).skipped =
      ((Walk.states style rootName value).filterMap (Walk.backReference? style)).eraseDups := by
  show (inferRoot style value rootName {}).2.shapes.emission.skipped = _
  cases h : rootObject rootName value with
  | none =>
    rw [emission_of_none h, states_of_none h]
    rfl
  | some o => rw [inferRoot_of_some h, (emission_of_some h).1]

/-- Nothing is skipped iff no owner holds an object of its own name or of the name of an object
around it. -/
theorem skipped_eq_nil_iff {style : NamingStyle} {rootName : Text} {value : Json}
    {owners : List Site} (survey : Survey style (rootObject rootName value)
      (Walk.last style rootName value).findings.shapes.declarations (fun _ => True) owners) :
    (Schema.ofValue style rootName value).skipped = [] ↔
      ∀ a ∈ owners, ∀ i p, p <+: a → ∀ name,
        nameAt? style (rootObject rootName value) (a ++ [i]) = some name →
        nameAt? style (rootObject rootName value) p ≠ some name := by
  have hbuilt := (Walk.sound_last style rootName value).built
  constructor
  · intro hnone a ha i p hp name hname
    have hsome := (survey.met a ha).isSome
    obtain ⟨o, ho⟩ := Option.isSome_iff_exists.mp
      (isSome_objectAt?_of_isPrefix List.nil_prefix hsome)
    have hnone : (inferRoot style value rootName {}).2.shapes.emission.skipped = [] := hnone
    rw [inferRoot_of_some ho] at hnone
    exact survey.nameAt?_ne_of_isPrefix hbuilt hnone ha hp hname
  · intro hno
    have howns := (survey.isOwnership_iff hbuilt.nodup_names (· ∈ owners)).mpr fun a => Iff.rfl
    have hback : (Walk.states style rootName value).filterMap (Walk.backReference? style) = [] := by
      refine List.filterMap_eq_nil_iff.mpr fun walk hwalk => ?_
      refine Option.eq_none_iff_forall_ne_some.mpr fun e he => ?_
      have hprogress := Walk.progress_of_mem_states hwalk
      obtain ⟨a, i, p, ha, hp, hname, hsame⟩ := hprogress.exists_of_backReference howns he
      exact hno a ha i p hp e.2 hname hsame
    rw [skipped_ofValue, hback]
    rfl

/-- **The order of a schema is that in which the walk closes its objects.** The walk comes to its
end; the declarations are those that its steps close, in order, or the wrapper alone if there is no
object to walk; so the root's is the last; the references skipped are those that its steps add to
open objects, each where it was added first; and there are none iff no walked object holds one of
its own name, or of the name of an object around it. -/
theorem ofValue_order (style : NamingStyle) (rootName : Text) (value : Json) :
    (Walk.last style rootName value).frames = [] ∧
    (match rootObject rootName value with
      | some _ => (Schema.ofValue style rootName value).declarations =
          (Walk.states style rootName value).filterMap Walk.closing?
      | none => Walk.states style rootName value = [] ∧
          (Schema.ofValue style rootName value).declarations =
            [{ name := style.declarationName rootName false,
               fields := [wrapperField style rootName value] }]) ∧
    (Schema.ofValue style rootName value).names.getLast? =
      some (Schema.ofValue style rootName value).rootName ∧
    (Schema.ofValue style rootName value).skipped =
      ((Walk.states style rootName value).filterMap (Walk.backReference? style)).eraseDups ∧
    ∃ owners : List Site,
      (∀ owns, IsOwnership style (rootObject rootName value) owns ↔ ∀ a, owns a ↔ a ∈ owners) ∧
      ((Schema.ofValue style rootName value).skipped = [] ↔
        ∀ a ∈ owners, ∀ i p, p <+: a → ∀ name,
          nameAt? style (rootObject rootName value) (a ++ [i]) = some name →
          nameAt? style (rootObject rootName value) p ≠ some name) := by
  obtain ⟨owners, survey⟩ := exists_survey_last style rootName value
  have howners := survey.isOwnership_iff (Walk.sound_last style rootName value).built.nodup_names
  have hdeclarations : (Schema.ofValue style rootName value).declarations =
      (inferRoot style value rootName {}).2.shapes.emission.declarations := rfl
  have hroot : (Schema.ofValue style rootName value).rootName =
      (inferRoot style value rootName {}).1 := rfl
  refine ⟨Walk.frames_last style rootName value, ?_, ?_, skipped_ofValue style rootName value,
    owners, howners, skipped_eq_nil_iff survey⟩
  · cases h : rootObject rootName value with
    | none =>
      refine ⟨states_of_none h, ?_⟩
      rw [hdeclarations, emission_of_none h]
    | some o =>
      dsimp only
      rw [hdeclarations, inferRoot_of_some h, (emission_of_some h).1]
  · rw [Schema.names, hdeclarations, hroot]
    cases h : rootObject rootName value with
    | none =>
      rw [emission_of_none h, inferRoot_of_none h]
      rfl
    | some o =>
      rw [inferRoot_of_some h, List.getLast?_map, (emission_of_some h).2, Option.map_some,
        o.name_declaration style]

end SampleTypes
