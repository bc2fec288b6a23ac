import SampleTypes.Proofs.Inference.Calls
import SampleTypes.Proofs.Inference.Lengthening
import SampleTypes.Proofs.Schema.Closing
import SampleTypes.Proofs.Schema.Connected

/-!
# A member more

> **One more member at the end of an object disturbs nothing**: what was declared stays, in its place
> and as it was, but for one field more in the root's declaration, and so does what was skipped.

For the store this is read off the recursion, which comes to the new member last: all that it finds is
put at the end, and the field is added to the root's declaration alone. For the order it is read off the
walk, which closes the same objects and adds the same references up to the point where it would close
the root (`Walk.exists_parting`).
-/

set_option autoImplicit false

namespace SampleTypes

variable {style : NamingStyle} {rootName : Text} {members more : List (Text × Json)} {key : Text}
  {value : Json}

/-- A store has all that another has, in its place and as it is, but that the declaration of that name
has one field more, which is of that key. -/
structure Shapes.Gains (name key : Text) (before after : Shapes) : Prop where
  names : before.names <+: after.names
  others : ∀ other ∈ before.names, other ≠ name → after.find? other = before.find? other
  field : ∃ d field, before.find? name = some d ∧ after.find? name = some (d.addField field) ∧
    field.key = key

/-- A schema has all that another has, in its place, and the same root, which comes last in both. -/
structure Schema.GoesOn (before after : Schema) : Prop where
  rootName : after.rootName = before.rootName
  declarations : ∃ ds new root root', before.declarations = ds ++ [root] ∧
    after.declarations = ds ++ new ++ [root'] ∧ root.name = before.rootName ∧
    root'.name = after.rootName
  skipped : before.skipped <+: after.skipped

/-! ## The store -/

theorem Recursive.inferMembers_append (name : Text) (scope : FieldScope) (findings : Findings) :
    inferMembers style name scope (members ++ more) findings =
      inferMembers style name (scopeAfter scope members) more
        (inferMembers style name scope members findings) := by
  induction members generalizing scope findings with
  | nil =>
    rw [List.nil_append, inferMembers]
    rfl
  | cons member members ih =>
    obtain ⟨key, value⟩ := member
    rw [List.cons_append, inferMembers_cons, ih, inferMembers_cons]
    rfl

theorem inferRoot_obj (style : NamingStyle) (rootName : Text) (members : List (Text × Json)) :
    inferRoot style (.obj members) rootName {} =
      (style.declarationName rootName false,
        (Recursive.inferMembers style (style.declarationName rootName false) style.fieldScope members
          (({} : Findings).declare (style.declarationName rootName false))).noteFilled
            (style.declarationName rootName false)) := by
  rw [inferRoot, infer_eq]
  rfl

/-- **The store gains one field in the root's declaration, and what the new member holds.** -/
theorem gains_inferRoot (style : NamingStyle) (rootName : Text) (members : List (Text × Json))
    (key : Text) (value : Json) :
    Shapes.Gains (style.declarationName rootName false) key
      (inferRoot style (.obj members) rootName {}).2.shapes
      (inferRoot style (.obj (members ++ [(key, value)])) rootName {}).2.shapes := by
  have hrooted := (connected_inferRoot style rootName (.obj members)).rooted
  have hkey : (memberField style (scopeAfter style.fieldScope members) key value).key = key := rfl
  rw [inferRoot_obj] at hrooted ⊢
  rw [inferRoot_obj, Recursive.inferMembers_append, Recursive.inferMembers_cons,
    Recursive.inferMembers]
  generalize style.declarationName rootName false = name at hrooted ⊢
  generalize Recursive.inferMembers style name style.fieldScope members
    (({} : Findings).declare name) = findings at hrooted ⊢
  generalize memberField style (scopeAfter style.fieldScope members) key value = field at hkey ⊢
  generalize SampledObject.of? value (.ofKey key) true = found
  -- To note that an object is filled does not change the store.
  show Shapes.Gains name key findings.shapes
    ((Recursive.inferObject style findings found).shapes.addField name field)
  refine ⟨?_, fun other hother hne => ?_, ?_⟩
  · obtain ⟨new, hnew, -⟩ := Recursive.declarations_inferObject style findings found
    rw [Shapes.names_addField, Shapes.names, Shapes.names, hnew, List.map_append]
    exact List.prefix_append _ _
  · obtain ⟨d, hd⟩ := Shapes.exists_find?_of_mem_names hother
    rw [Shapes.find?_addField_of_ne _ _ (Ne.symm hne), find?_inferObject found hd, hd]
  · obtain ⟨d, hd⟩ := Shapes.exists_find?_of_mem_names hrooted
    exact ⟨d, field, hd, Shapes.find?_addField_self field (find?_inferObject found hd), hkey⟩

/-! ## The order -/

theorem Walk.start_append (style : NamingStyle) (rootName : Text)
    (members more : List (Text × Json)) :
    Walk.start style rootName (.obj (members ++ more)) =
      (Walk.start style rootName (.obj members)).lengthen more := by
  have hroot : ∀ ms, rootObject rootName (.obj ms) = some ⟨ms, rootName, false⟩ := fun _ => rfl
  rw [Walk.start_of_some (hroot _), Walk.start_of_some (hroot _)]
  rfl

/-- What is read off each state is the same for the states of a longer walk, if it is so for each. -/
theorem Walk.filterMap_lengthen {α : Type} {read : Walk → Option α} {before : List Walk}
    (h : ∀ walk ∈ before, read (walk.lengthen more) = read walk) :
    (before.map (Walk.lengthen more)).filterMap read = before.filterMap read := by
  rw [List.filterMap_map]
  exact List.filterMap_congr h

/-- The step that ends a walk through a sample closes a declaration. -/
theorem Walk.exists_closing?_of_isEnding {walk : Walk} {value : Json}
    (h : walk ∈ Walk.states style rootName value) (hending : walk.IsEnding) :
    ∃ d, walk.closing? = some d := by
  have hsound : walk.Sound := Walk.course_induction (P := Walk.Sound)
    (fun _ _ h hm => h.move hm) _ (Walk.sound_start style rootName value) walk h
  obtain ⟨name, scope, hf⟩ := hending
  have hname : name ∈ walk.findings.shapes.names :=
    hsound.opened (by rw [Walk.openNames, hf]; exact List.mem_cons_self)
  obtain ⟨d, hd⟩ := Shapes.exists_find?_of_mem_names hname
  exact ⟨d, by rw [Walk.closing?, hf]; exact hd⟩

/-- The order of an object's schema, which ends in the root's declaration. -/
theorem declarations_ofValue_obj (style : NamingStyle) (rootName : Text)
    (members : List (Text × Json)) :
    (Schema.ofValue style rootName (.obj members)).declarations =
        (Walk.states style rootName (.obj members)).filterMap Walk.closing? ∧
      ∃ root, (Schema.ofValue style rootName (.obj members)).declarations.getLast? = some root ∧
        root.name = style.declarationName rootName false := by
  have hroot : rootObject rootName (.obj members) = some ⟨members, rootName, false⟩ := rfl
  have hdeclarations : (Schema.ofValue style rootName (.obj members)).declarations =
      (Walk.last style rootName (.obj members)).findings.shapes.emission.declarations := by
    show (inferRoot style (.obj members) rootName {}).2.shapes.emission.declarations = _
    rw [inferRoot_of_some hroot]
  rw [hdeclarations]
  exact ⟨congrArg Emission.declarations (emission_of_some hroot).1, _, (emission_of_some hroot).2,
    SampledObject.name_declaration style _⟩

/-- A list that ends in a name which its first part lacks does not end in that part. -/
theorem exists_eq_snoc_of_getLast? {ds rest : List Declaration} {d root : Declaration}
    (hnodup : ((ds ++ [d]).map (·.name)).Nodup) (hlast : (ds ++ rest).getLast? = some root)
    (hname : root.name = d.name) : ∃ new, rest = new ++ [root] := by
  by_cases hrest : rest = []
  · rw [hrest, List.append_nil] at hlast
    rw [List.map_append, List.map_singleton] at hnodup
    have hapart := (List.nodup_append.mp hnodup).2.2 root.name
      (List.mem_map_of_mem (List.mem_of_getLast? hlast)) d.name List.mem_cons_self
    exact absurd hname hapart
  · rw [List.getLast?_append_of_ne_nil _ hrest] at hlast
    exact ⟨rest.dropLast, (List.dropLast_append_getLast? root hlast).symm⟩

/-- The walk through an object closes and adds the same up to the state that would close the object, when
that has more members, and what it does from there on comes after. -/
theorem Walk.exists_states_parting (style : NamingStyle) (rootName : Text)
    (members more : List (Text × Json)) :
    ∃ (before : List Walk) (last : Walk) (after : List Walk), last.IsEnding ∧
      Walk.states style rootName (.obj members) = before ++ [last] ∧
      (Walk.states style rootName (.obj (members ++ more))).filterMap closing? =
        before.filterMap closing? ++ after.filterMap closing? ∧
      (Walk.states style rootName (.obj (members ++ more))).filterMap (backReference? style) =
        before.filterMap (backReference? style) ++ after.filterMap (backReference? style) := by
  obtain ⟨before, last, hending, hbefore, hcourse, hmore⟩ :=
    exists_parting style (Walk.start style rootName (.obj members)) (List.cons_ne_nil _ _)
  have hstates : Walk.states style rootName (.obj (members ++ more)) =
      before.map (lengthen more) ++ wholeCourse style (last.lengthen more) := by
    rw [← hmore more, ← start_append]
    rfl
  have hstep : ∀ walk ∈ before, _ := fun walk hwalk =>
    (inStep_lengthen more style (hbefore walk hwalk)).2
  refine ⟨before, last, wholeCourse style (last.lengthen more), hending, hcourse, ?_, ?_⟩
  · rw [hstates, List.filterMap_append, filterMap_lengthen fun walk hwalk => (hstep walk hwalk).1]
  · rw [hstates, List.filterMap_append, filterMap_lengthen fun walk hwalk => (hstep walk hwalk).2]

/-- What comes before the root in the order stays there, and the root comes last again. -/
theorem exists_declarations_append (style : NamingStyle) (rootName : Text)
    (members more : List (Text × Json)) :
    ∃ ds new root root',
      (Schema.ofValue style rootName (.obj members)).declarations = ds ++ [root] ∧
      (Schema.ofValue style rootName (.obj (members ++ more))).declarations =
        ds ++ new ++ [root'] ∧
      root.name = style.declarationName rootName false ∧
      root'.name = style.declarationName rootName false := by
  obtain ⟨before, last, after, hending, hstates, hclosing, -⟩ :=
    Walk.exists_states_parting style rootName members more
  obtain ⟨hclosed, root, hroot, hname⟩ := declarations_ofValue_obj style rootName members
  obtain ⟨hclosed', root', hroot', hname'⟩ :=
    declarations_ofValue_obj style rootName (members ++ more)
  obtain ⟨d, hd⟩ := Walk.exists_closing?_of_isEnding (hstates ▸ List.mem_append_right _
    List.mem_cons_self) hending
  rw [hstates, List.filterMap_append, List.filterMap_cons_some hd, List.filterMap_nil] at hclosed
  rw [hclosing] at hclosed'
  obtain rfl : d = root := by simpa [hclosed] using hroot
  have hnodup := Shapes.nodup_names_emission (built_inferRoot style rootName (.obj members))
  rw [show (inferRoot style (.obj members) rootName {}).2.shapes.emission.declarations = _
    from hclosed] at hnodup
  obtain ⟨new, hnew⟩ := exists_eq_snoc_of_getLast? hnodup (hclosed' ▸ hroot')
    (hname'.trans hname.symm)
  refine ⟨_, new, d, root', hclosed, ?_, hname, hname'⟩
  rw [hclosed', hnew, List.append_assoc]

theorem skipped_isPrefix_append (style : NamingStyle) (rootName : Text)
    (members more : List (Text × Json)) :
    (Schema.ofValue style rootName (.obj members)).skipped <+:
      (Schema.ofValue style rootName (.obj (members ++ more))).skipped := by
  obtain ⟨before, last, after, ⟨name, scope, hf⟩, hstates, -, hskipped⟩ :=
    Walk.exists_states_parting style rootName members more
  -- The step that closes the object adds no reference.
  rw [skipped_ofValue, skipped_ofValue, hskipped, hstates, List.filterMap_append,
    List.filterMap_cons_none (Walk.backReference?_of_close hf), List.filterMap_nil, List.append_nil,
    List.eraseDups_append]
  exact List.prefix_append _ _

/-- **The order goes on where it would have come to the root.** -/
theorem goesOn_ofValue (style : NamingStyle) (rootName : Text) (members more : List (Text × Json)) :
    Schema.GoesOn (Schema.ofValue style rootName (.obj members))
      (Schema.ofValue style rootName (.obj (members ++ more))) := by
  have hrootName : ∀ ms, (Schema.ofValue style rootName (.obj ms)).rootName =
      style.declarationName rootName false := fun ms =>
    congrArg Prod.fst (inferRoot_obj style rootName ms)
  obtain ⟨ds, new, root, root', hbefore, hafter, hname, hname'⟩ :=
    exists_declarations_append style rootName members more
  exact ⟨(hrootName _).trans (hrootName _).symm,
    ⟨ds, new, root, root', hbefore, hafter, hname.trans (hrootName _).symm,
      hname'.trans (hrootName _).symm⟩,
    skipped_isPrefix_append style rootName members more⟩

/-- **One more member at the end of an object disturbs nothing.** Whatever its key and whatever it holds,
the store keeps its names in their order and its declarations as they are, and the root's gains one
field, which is of that key and comes last. In the order, what came before the root is kept in its
place, and the root comes last again; and so are the references skipped. -/
theorem appended_member_disturbs_nothing (style : NamingStyle) (rootName : Text)
    (members : List (Text × Json)) (key : Text) (value : Json) :
    (Schema.ofValue style rootName (.obj members)).rootName =
        style.declarationName rootName false ∧
      Shapes.Gains (style.declarationName rootName false) key
        (inferRoot style (.obj members) rootName {}).2.shapes
        (inferRoot style (.obj (members ++ [(key, value)])) rootName {}).2.shapes ∧
      Schema.GoesOn (Schema.ofValue style rootName (.obj members))
        (Schema.ofValue style rootName (.obj (members ++ [(key, value)]))) :=
  ⟨congrArg Prod.fst (inferRoot_obj style rootName members),
    gains_inferRoot style rootName members key value,
    goesOn_ofValue style rootName members [(key, value)]⟩

end SampleTypes
