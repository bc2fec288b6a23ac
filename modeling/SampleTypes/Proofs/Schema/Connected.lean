import SampleTypes.Generation.Schema
import SampleTypes.Proofs.Inference.References

/-!
# A schema is whole

> **Nothing that a schema refers to is missing from it, and nothing in it is out of reach of its
> root.**

The store in which inference leaves its declarations is so already (`Connected`): in the one
case by what is known of the references of owners, in the other because a wrapper refers to nothing.
Emission takes nothing away, and where everything is stored it has nothing to miss.
-/

set_option autoImplicit false

namespace SampleTypes

/-- Declarations with names of their own, all that they refer to among them, and all to be reached
from the one of that name. -/
structure Connected (ds : List Declaration) (rootName : Text) : Prop where
  filled : ∀ d ∈ ds, d.Filled
  distinct : (ds.map (·.name)).Nodup
  closed : ∀ e ∈ edgesOf ds, e.2 ∈ ds.map (·.name)
  rooted : rootName ∈ ds.map (·.name)
  reachable : ∀ d ∈ ds,
    Relation.ReflTransGen (fun source target => (source, target) ∈ edgesOf ds) rootName d.name

namespace Connected

/-- The order of the declarations does not matter. -/
theorem perm {ds ds' : List Declaration} {rootName : Text} (h : Connected ds rootName)
    (hp : ds'.Perm ds) : Connected ds' rootName := by
  have hedges : ∀ e, e ∈ edgesOf ds' ↔ e ∈ edgesOf ds := by
    intro e
    simp only [mem_edgesOf, hp.mem_iff]
  have hnames := hp.map (·.name)
  refine ⟨fun d hd => h.filled d (hp.mem_iff.mp hd), hnames.nodup_iff.mpr h.distinct,
    fun e he => hnames.mem_iff.mpr (h.closed e ((hedges e).mp he)), hnames.mem_iff.mpr h.rooted,
    fun d hd => ?_⟩
  simp only [hedges]
  exact h.reachable d (hp.mem_iff.mp hd)

end Connected

theorem Survey.connected {style : NamingStyle} {root : Option SampledObject}
    {ds : List Declaration} {owners : List Site} (h : Survey style root ds (fun _ => True) owners)
    (hn : (ds.map (·.name)).Nodup) {o : SampledObject} (ho : objectAt? root [] = some o) :
    Connected ds (o.name style) := by
  have hroot : nameAt? style root [] = some (o.name style) := nameAt?_of_some ho
  refine ⟨fun d hd => ?_, hn, fun e he => h.closed he, ?_, fun d hd => ?_⟩
  · obtain ⟨_, _, o, _, rfl⟩ := h.mem_iff.mp hd
    exact o.filled_declaration style
  · obtain ⟨b, hb, _, hname⟩ := h.covered [] trivial (.root (by rw [ho]; rfl))
    exact h.mem_names_iff.mpr ⟨b, hb, hname.trans hroot⟩
  · obtain ⟨a, ha, o', ho', rfl⟩ := h.mem_iff.mp hd
    refine h.reachable hroot ha ?_
    rw [o'.name_declaration style]
    exact nameAt?_of_some ho'

theorem connected_inferRoot (style : NamingStyle) (rootName : Text) (value : Json) :
    Connected (inferRoot style value rootName {}).2.shapes.declarations
      (inferRoot style value rootName {}).1 := by
  have hbuilt := built_inferRoot style rootName value
  cases h : rootObject rootName value with
  | some o =>
    obtain ⟨owners, survey⟩ := exists_survey_last style rootName value
    rw [inferRoot_of_some h] at hbuilt ⊢
    exact survey.connected hbuilt.nodup_names h
  | none =>
    have hds : (inferRoot style value rootName {}).2.shapes.declarations =
        [{ name := style.declarationName rootName false,
           fields := [wrapperField style rootName value] }] := declarations_of_none h
    have hnone : edgesOf (inferRoot style value rootName {}).2.shapes.declarations = [] := by
      rw [hds]
      rfl
    refine ⟨hbuilt.filled, hbuilt.nodup_names, fun e he => ?_, ?_, fun d hd => ?_⟩
    · rw [hnone] at he
      exact absurd he (by simp)
    · rw [hds, inferRoot_of_none h]
      exact List.mem_singleton_self _
    · rw [hds, List.mem_singleton] at hd
      rw [hd, inferRoot_of_none h]

/-- Where all that is referred to is stored, the traversal never looks for a name in vain. -/
theorem Traversal.Reached.find?_ne_none {shapes : Shapes} {t : Traversal} (h : Reached shapes t)
    (hclosed : ∀ e ∈ edgesOf shapes.declarations, e.2 ∈ shapes.names) {d : Declaration}
    {name : Text} {names : List Text} {outer : List (Declaration × List Text)}
    (hf : t.frames = (d, name :: names) :: outer) : shapes.find? name ≠ none := by
  have hframe : (d, name :: names) ∈ t.frames := hf ▸ List.mem_cons_self
  have hstored : d ∈ shapes.declarations := h.coherent.stored_of_mem_frames hframe
  have hname : name ∈ d.dependencies := (h.coherent.ahead _ hframe).subset List.mem_cons_self
  rw [Ne, Shapes.find?_eq_none_iff, not_not]
  exact hclosed (d.name, name) (mem_edgesOf.mpr ⟨d, hstored, rfl, hname⟩)

/-- **A schema is closed and connected.** Its names are distinct; every name to which a field of it
refers, through any number of lists, is declared, so that the traversal behind its order finds
whatever it looks for; every declaration can be reached from the root's by references; and the
root's is there. -/
theorem ofValue_connected (style : NamingStyle) (rootName : Text) (value : Json) :
    (Schema.ofValue style rootName value).names.Nodup ∧
    (∀ d ∈ (Schema.ofValue style rootName value).declarations, ∀ field ∈ d.fields, ∀ name,
      field.type.reference? = some name → name ∈ (Schema.ofValue style rootName value).names) ∧
    (∀ t, Traversal.Reached (inferRoot style value rootName {}).2.shapes t →
      ∀ d name names outer, t.frames = (d, name :: names) :: outer →
        (inferRoot style value rootName {}).2.shapes.find? name ≠ none) ∧
    (∀ d ∈ (Schema.ofValue style rootName value).declarations,
      Relation.ReflTransGen (fun source target =>
          (source, target) ∈ edgesOf (Schema.ofValue style rootName value).declarations)
        (Schema.ofValue style rootName value).rootName d.name) ∧
    ∃ root ∈ (Schema.ofValue style rootName value).declarations,
      (Schema.ofValue style rootName value).root? = some root ∧
      root.name = (Schema.ofValue style rootName value).rootName := by
  have hfound := connected_inferRoot style rootName value
  have hschema : Connected (Schema.ofValue style rootName value).declarations
      (Schema.ofValue style rootName value).rootName :=
    hfound.perm (Traversal.perm_emission hfound.distinct)
  refine ⟨hschema.distinct, fun d hd field hfield name hname => ?_,
    fun t ht d name names outer hf => ht.find?_ne_none hfound.closed hf, hschema.reachable, ?_⟩
  · refine hschema.closed (d.name, name) (mem_edgesOf.mpr ⟨d, hd, rfl, ?_⟩)
    exact (hschema.filled d hd).mem_dependencies_iff.mpr ⟨field, hfield, hname⟩
  · cases hroot : (Schema.ofValue style rootName value).root? with
    | none =>
      obtain ⟨d, hd, hname⟩ := List.mem_map.mp hschema.rooted
      exact absurd hname (by simpa using List.find?_eq_none.mp hroot d hd)
    | some root =>
      exact ⟨root, List.mem_of_find?_eq_some hroot, rfl, by simpa using List.find?_some hroot⟩

end SampleTypes
