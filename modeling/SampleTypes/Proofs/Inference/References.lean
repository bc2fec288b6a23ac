import Mathlib.Logic.Relation
import SampleTypes.Proofs.Emission.Precedence
import SampleTypes.Proofs.Inference.Faithful

/-!
# What refers to what

Order and reachability are about the dependencies of declarations, and ownership is about objects
and their members. This file carries the one over to the other:

> **a declaration depends on a name iff its object has a member of that name**
> (`Survey.mem_edgesOf`).

From it follow the two facts that make a schema whole. What is depended on is declared, as the
object of the member was met, and what was met is the owner of its name or comes after it
(`Survey.closed`). And every owner is depended on by the owner that holds it, up to the root
(`Survey.reachable`).
-/

set_option autoImplicit false

namespace SampleTypes

namespace SampledObject

/-- The dependencies of an object's declaration are the names of its members' objects. -/
theorem mem_dependencies_declaration {style : NamingStyle} {o : SampledObject} {name : Text} :
    name ∈ (o.declaration style).dependencies ↔
      ∃ i, (o.member? i).map (·.name style) = some name := by
  have hfields : name ∈ (o.declaration style).dependencies ↔
      some name ∈ (o.declaration style).fields.map (·.type.reference?) := by
    rw [(o.filled_declaration style).mem_dependencies_iff, List.mem_map]
  rw [hfields, fields_declaration, references_memberFields, List.mem_map]
  constructor
  · rintro ⟨member, hm, hname⟩
    obtain ⟨i, hi⟩ := List.mem_iff_getElem?.mp hm
    refine ⟨i, ?_⟩
    rw [member?, hi]
    exact hname
  · rintro ⟨i, hname⟩
    rw [member?] at hname
    cases hi : o.members[i]? with
    | none =>
      rw [hi] at hname
      exact absurd hname (by simp)
    | some member =>
      rw [hi] at hname
      exact ⟨member, List.mem_of_getElem? hi, hname⟩

end SampledObject

namespace Survey

variable {style : NamingStyle} {root : Option SampledObject} {ds : List Declaration}
  {past : Site → Prop} {owners : List Site}

theorem mem_iff (h : Survey style root ds past owners) {d : Declaration} :
    d ∈ ds ↔ ∃ a ∈ owners, ∃ o, objectAt? root a = some o ∧ d = o.declaration style := by
  have hmem : d ∈ ds ↔ some d ∈ ds.map some := by simp
  rw [hmem, h.declared, List.mem_map]
  constructor
  · rintro ⟨a, ha, hd⟩
    obtain ⟨o, ho, rfl⟩ := Option.map_eq_some_iff.mp hd
    exact ⟨a, ha, o, ho, rfl⟩
  · rintro ⟨a, ha, o, ho, rfl⟩
    exact ⟨a, ha, by rw [ho]; rfl⟩

/-- **The references of the declarations are those of the owners to their members.** -/
theorem mem_edgesOf (h : Survey style root ds past owners) {e : Edge} :
    e ∈ edgesOf ds ↔ ∃ a ∈ owners, ∃ i, nameAt? style root a = some e.1 ∧
      nameAt? style root (a ++ [i]) = some e.2 := by
  rw [SampleTypes.mem_edgesOf]
  constructor
  · rintro ⟨d, hd, hsource, htarget⟩
    obtain ⟨a, ha, o, ho, rfl⟩ := h.mem_iff.mp hd
    obtain ⟨i, hi⟩ := SampledObject.mem_dependencies_declaration.mp htarget
    refine ⟨a, ha, i, ?_, ?_⟩
    · rw [nameAt?_of_some ho, ← hsource, o.name_declaration style]
    · rw [nameAt?, objectAt?_snoc, ho]
      exact hi
  · rintro ⟨a, ha, i, hsource, htarget⟩
    obtain ⟨o, ho, hname⟩ := Option.map_eq_some_iff.mp hsource
    refine ⟨o.declaration style, h.mem_iff.mpr ⟨a, ha, o, ho, rfl⟩, ?_, ?_⟩
    · rw [o.name_declaration style]
      exact hname
    · rw [nameAt?, objectAt?_snoc, ho] at htarget
      exact SampledObject.mem_dependencies_declaration.mpr ⟨i, htarget⟩

/-- What a declaration refers to is declared. -/
theorem closed (h : Survey style root ds (fun _ => True) owners) {e : Edge} (he : e ∈ edgesOf ds) :
    e.2 ∈ ds.map (·.name) := by
  obtain ⟨a, ha, i, _, htarget⟩ := h.mem_edgesOf.mp he
  obtain ⟨o, ho, _⟩ := Option.map_eq_some_iff.mp htarget
  obtain ⟨b, hb, _, hname⟩ := h.covered (a ++ [i]) trivial (.member ha (by rw [ho]; rfl))
  exact h.mem_names_iff.mpr ⟨b, hb, hname.trans htarget⟩

/-- References lead from the root to every owner. -/
theorem reachable (h : Survey style root ds past owners) {rootName : Text}
    (hroot : nameAt? style root [] = some rootName) {a : Site} (ha : a ∈ owners) {name : Text}
    (hname : nameAt? style root a = some name) :
    Relation.ReflTransGen (fun source target => (source, target) ∈ edgesOf ds) rootName name := by
  induction a using List.reverseRecOn generalizing name with
  | nil =>
    rw [hroot] at hname
    rw [Option.some.inj hname]
  | append_singleton a i ih =>
    have hb : a ∈ owners := (h.met _ ha).holder
    obtain ⟨o, ho⟩ := Option.isSome_iff_exists.mp (h.met a hb).isSome
    have hholder : nameAt? style root a = some (o.name style) := nameAt?_of_some ho
    exact (ih hb hholder).tail (h.mem_edgesOf.mpr ⟨a, hb, i, hholder, hname⟩)

end Survey

end SampleTypes
