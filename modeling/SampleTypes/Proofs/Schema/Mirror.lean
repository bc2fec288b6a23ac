import SampleTypes.Proofs.Emission.Precedence
import SampleTypes.Proofs.Inference.Course

/-!
# The order of emission mirrors the walk

Two machines with a stack: the walk goes through the objects of a sample and leaves a store, and the
traversal goes through the store. `Mirrors` relates a state of the one to a state of the other.
Their stacks are the same, frame by frame, and a declaration was begun by the traversal iff it was
declared by the walk; what is pending in a frame of the traversal are the dependencies that the walk
has not noted yet.

**Every step of the walk is mirrored by at most one step of the traversal** (`Mirrors.move`):

* an object is closed — its declaration is finished;
* a member declares nothing and notes no new name — nothing happens;
* it notes a new name, which is declared already — the dependency is skipped if that is open, and
  passed over if not;
* it declares an object — the declaration is entered.

The traversal is over the store as the walk leaves it at the end. So the walk has to be known to go
on to that store, which is the hypothesis `hin` below.
-/

set_option autoImplicit false

namespace SampleTypes

/-- A frame of the walk and one of the traversal that belong to the same object. -/
def Mirrored (style : NamingStyle) (frame : Frame) (visit : Declaration × List Text) : Prop :=
  ∃ (o : SampledObject) (i : Nat), frame = o.frame style i ∧ visit.1 = o.declaration style ∧
    (o.declaration style).dependencies = o.noted style i ++ visit.2

/-- A state of the walk and one of the traversal that belong together, after those declarations were
closed and those references to open objects were added. -/
structure Mirrors (style : NamingStyle) (shapes : Shapes) (walk : Walk) (t : Traversal)
    (closed : List Declaration) (met : List Edge) : Prop where
  reached : t.Reached shapes
  frames : List.Forall₂ (Mirrored style) walk.frames t.frames
  names : ∀ name, name ∈ walk.findings.shapes.names ↔ name ∈ t.names
  closed : t.finished.reverse = closed
  met : t.skipped.reverse = met.eraseDups

namespace Mirrors

variable {style : NamingStyle} {shapes : Shapes} {walk : Walk} {t : Traversal}
  {closed : List Declaration} {met : List Edge}

theorem isOpen_iff (h : Mirrors style shapes walk t closed met) {name : Text} :
    t.isOpen name = true ↔ name ∈ walk.openNames := by
  have hnames : walk.openNames = t.frames.map (·.1.name) := by
    rw [Walk.openNames]
    refine map_eq_map_of_forall₂ h.frames fun frame visit hm => ?_
    obtain ⟨o, i, rfl, hd, _⟩ := hm
    rw [hd, o.name_declaration style]
    rfl
  rw [hnames, Traversal.isOpen, List.any_eq_true, List.mem_map]
  simp only [beq_iff_eq]

theorem mem_skipped_iff (h : Mirrors style shapes walk t closed met) {e : Edge} :
    e ∈ t.skipped ↔ e ∈ met := by
  rw [← List.mem_reverse, h.met, List.mem_eraseDups]

/-- What is recorded when no reference to an open object is added. -/
theorem met_of_eq_none (h : Mirrors style shapes walk t closed met) {back : Option Edge}
    (hback : back = none) : t.skipped.reverse = (met ++ back.toList).eraseDups := by
  rw [hback, h.met, Option.toList_none, List.append_nil]

/-- The innermost frames belong to the same object. -/
theorem innermost (h : Mirrors style shapes walk t closed met) {frame : Frame}
    {outer : List Frame} (hf : walk.frames = frame :: outer) :
    ∃ (o : SampledObject) (i : Nat) (pending : List Text)
      (visits : List (Declaration × List Text)), frame = o.frame style i ∧
      t.frames = (o.declaration style, pending) :: visits ∧
      (o.declaration style).dependencies = o.noted style i ++ pending ∧
      List.Forall₂ (Mirrored style) outer visits := by
  have hframes := h.frames
  rw [hf] at hframes
  obtain ⟨⟨d, pending⟩, visits, hhead, htail, ht⟩ := List.forall₂_cons_left_iff.mp hframes
  obtain ⟨o, i, hframe, hd, hdeps⟩ := hhead
  exact ⟨o, i, pending, visits, hframe, by rw [ht, ← hd], hdeps, htail⟩

/-! ## What is closed -/

/-- The declaration of an object is complete when the object is closed. -/
theorem closing?_eq (h : Mirrors style shapes walk t closed met) (hb : shapes.Built)
    (hs : walk.Sound) (hin : walk.completed style ⊆ shapes.declarations) {name : Text}
    {scope : FieldScope} {outer : List Frame} (hf : walk.frames = ⟨name, scope, []⟩ :: outer)
    {d : Declaration} {pending : List Text} {visits : List (Declaration × List Text)}
    (ht : t.frames = (d, pending) :: visits) (hd : d.name = name) : walk.closing? = some d := by
  have hopened := hs.opened
  have honce := hs.once
  rw [Walk.openNames, hf] at hopened honce
  obtain ⟨e, he, hname⟩ := List.mem_map.mp (hopened List.mem_cons_self)
  have hname : e.name = name := hname
  -- No field is missing any more from what is stored.
  have hfull : fillAll style walk.frames e = e := by
    rw [hf, fillAll_nil_cons]
    refine fillAll_of_closed ?_
    rw [hname]
    exact (List.nodup_cons.mp honce).1
  have hestored : e ∈ shapes.declarations := by
    refine hin ?_
    rw [Walk.completed, ← hfull]
    exact List.mem_map_of_mem he
  have hdstored : d ∈ shapes.declarations :=
    h.reached.coherent.stored_of_mem_frames (ht ▸ List.mem_cons_self)
  have hed : e = d := Shapes.eq_of_name_eq hb.nodup_names hestored hdstored (hname.trans hd.symm)
  rw [Walk.closing?, hf, ← hed]
  dsimp only
  rw [← hname]
  exact Shapes.find?_of_mem hs.built.nodup_names he

theorem close (h : Mirrors style shapes walk t closed met) (hb : shapes.Built) (hs : walk.Sound)
    (hin : walk.completed style ⊆ shapes.declarations) {name : Text} {scope : FieldScope}
    {outer : List Frame} (hf : walk.frames = ⟨name, scope, []⟩ :: outer)
    (trace : List InferenceEvent) :
    Mirrors style shapes ⟨⟨walk.findings.shapes, trace⟩, outer⟩ (Traversal.step shapes t)
      (closed ++ walk.closing?.toList) (met ++ (walk.backReference? style).toList) := by
  obtain ⟨o, i, pending, visits, hframe, ht, hdeps, htail⟩ := h.innermost hf
  have hpending : pending = [] := by
    rw [SampledObject.noted_of_close hframe.symm] at hdeps
    exact List.append_cancel_left (hdeps.symm.trans (List.append_nil _).symm)
  subst hpending
  have hname := SampledObject.name_declaration_of_frame hframe.symm
  have hreached := h.reached.step
  rw [Traversal.step_finish ht] at hreached ⊢
  refine ⟨hreached, htail, fun other => ?_, ?_, ?_⟩
  · rw [h.names other]
    simp [Traversal.names, Traversal.sequence, ht]
  · rw [h.closing?_eq hb hs hin hf ht hname, ← h.closed]
    exact List.reverse_cons
  · exact h.met_of_eq_none (Walk.backReference?_of_close hf)

/-! ## What is noted -/

section

variable {o : SampledObject} {i : Nat} {name : Text} {scope : FieldScope} {key : Text}
  {value : Json} {members : List (Text × Json)} {outer : List Frame}
  {visits : List (Declaration × List Text)}

/-- The walk takes a member that declares nothing, and the traversal has looked at whatever name
that adds to those noted. -/
theorem look (h : Mirrors style shapes walk t closed met)
    (hframe : o.frame style i = ⟨name, scope, (key, value) :: members⟩)
    (htail : List.Forall₂ (Mirrored style) outer visits) {t' : Traversal} {rest : List Text}
    {met' : List Edge} (hreached : t'.Reached shapes)
    (ht' : t'.frames = (o.declaration style, rest) :: visits)
    (hrest : (o.declaration style).dependencies = o.noted style (i + 1) ++ rest)
    (hsequence : t'.sequence = t.sequence) (hfinished : t'.finished = t.finished)
    (hmet : t'.skipped.reverse = met'.eraseDups) (trace : List InferenceEvent) :
    Mirrors style shapes
      ⟨⟨walk.findings.shapes.addField name (memberField style scope key value), trace⟩,
        ⟨name, (scope.assign key).2, members⟩ :: outer⟩ t' closed met' := by
  refine ⟨hreached, ?_, ?_, ?_, hmet⟩
  · rw [ht']
    exact .cons ⟨o, i + 1, (SampledObject.frame_succ hframe).symm, rfl, hrest⟩ htail
  · rw [Shapes.names_addField, Traversal.names, hsequence]
    exact h.names
  · rw [hfinished]
    exact h.closed

/-- A member that notes no new name is mirrored by nothing. -/
theorem stay (h : Mirrors style shapes walk t closed met) (hb : shapes.Built)
    (hf : walk.frames = ⟨name, scope, (key, value) :: members⟩ :: outer)
    (hframe : o.frame style i = ⟨name, scope, (key, value) :: members⟩) {pending : List Text}
    (ht : t.frames = (o.declaration style, pending) :: visits)
    (hdeps : (o.declaration style).dependencies = o.noted style i ++ pending)
    (htail : List.Forall₂ (Mirrored style) outer visits)
    (hold : ∀ target, memberName? style (key, value) = some target →
      target ∈ o.noted style i ∧ target ∈ shapes.names) (trace : List InferenceEvent) :
    Mirrors style shapes
      ⟨⟨walk.findings.shapes.addField name (memberField style scope key value), trace⟩,
        ⟨name, (scope.assign key).2, members⟩ :: outer⟩ t closed
      (met ++ (walk.backReference? style).toList) := by
  have hnoted : o.noted style (i + 1) = o.noted style i := by
    rw [SampledObject.noted_succ hframe]
    cases href : memberName? style (key, value) with
    | none => rfl
    | some target => exact Declaration.noteDependency_of_mem (hold target href).1
  refine h.look hframe htail h.reached ht (hnoted ▸ hdeps) rfl rfl ?_ trace
  cases hback : walk.backReference? style with
  | none => exact h.met_of_eq_none rfl
  | some e =>
    -- The name was noted before, and the reference to it was skipped then.
    obtain ⟨hsource, href, hopen⟩ := (Walk.backReference?_eq_some_iff hf).mp hback
    obtain ⟨hlooked, hstored⟩ := hold e.2 href
    have hskipped := (h.reached.judged hb ht hdeps hlooked hstored).2.mpr
      (h.reached.coherent.not_precedes_of_isOpen ht (h.isOpen_iff.mpr hopen))
    have hname : (o.declaration style).name = e.1 :=
      (SampledObject.name_declaration_of_frame hframe).trans hsource.symm
    rw [hname, h.mem_skipped_iff] at hskipped
    exact h.met.trans (eraseDups_snoc_of_mem hskipped).symm

/-- A member that notes a new name of a declaration that is there is mirrored by a look at it. -/
theorem note (h : Mirrors style shapes walk t closed met) (hb : shapes.Built)
    (hf : walk.frames = ⟨name, scope, (key, value) :: members⟩ :: outer)
    (hframe : o.frame style i = ⟨name, scope, (key, value) :: members⟩) {target : Text}
    (href : memberName? style (key, value) = some target)
    (hknown : target ∈ walk.findings.shapes.names) {rest : List Text}
    (ht : t.frames = (o.declaration style, target :: rest) :: visits)
    (hrest : (o.declaration style).dependencies = o.noted style (i + 1) ++ rest)
    (htail : List.Forall₂ (Mirrored style) outer visits) (trace : List InferenceEvent) :
    Mirrors style shapes
      ⟨⟨walk.findings.shapes.addField name (memberField style scope key value), trace⟩,
        ⟨name, (scope.assign key).2, members⟩ :: outer⟩ (Traversal.step shapes t) closed
      (met ++ (walk.backReference? style).toList) := by
  have hreached := h.reached.step
  have hopen_iff : t.isOpen target = true ↔ target ∈ walk.openNames := h.isOpen_iff
  by_cases hopen : target ∈ walk.openNames
  · have hback : walk.backReference? style = some (name, target) :=
      (Walk.backReference?_eq_some_iff hf).mpr ⟨rfl, href, hopen⟩
    have hname := SampledObject.name_declaration_of_frame hframe
    rw [Traversal.step_skip ht (hopen_iff.mpr hopen)] at hreached ⊢
    refine h.look hframe htail hreached rfl hrest ?_ rfl ?_ trace
    · simp [Traversal.sequence, ht]
    · -- Nothing is skipped twice, so the reference was not met before.
      have honce := (hreached.settled fun d hd => (hb.filled d hd).nodup_dependencies).once
      have hfresh := (List.nodup_cons.mp honce).1
      rw [hname, h.mem_skipped_iff] at hfresh
      rw [hback, hname, Option.toList_some, eraseDups_snoc_of_notMem hfresh, ← h.met]
      exact List.reverse_cons
  · have hback : walk.backReference? style = none := by
      refine Walk.backReference?_of_forall_notMem hf fun other hother => ?_
      exact Option.some.inj (href.symm.trans hother) ▸ hopen
    -- What was declared and is not open any more was closed.
    have hclosed : t.isOpen target = false := Bool.eq_false_iff.mpr (mt hopen_iff.mp hopen)
    have hfinished : t.isFinished target = true := by
      have hmem := Traversal.mem_names_iff.mp ((h.names target).mp hknown)
      exact hmem.resolve_right (mt hopen_iff.mp hopen)
    rw [Traversal.step_pass ht hclosed hfinished] at hreached ⊢
    refine h.look hframe htail hreached rfl hrest ?_ rfl (h.met_of_eq_none hback) trace
    simp [Traversal.sequence, ht]

theorem keep (h : Mirrors style shapes walk t closed met) (hb : shapes.Built)
    (hstored : walk.findings.shapes.names ⊆ shapes.names)
    (hf : walk.frames = ⟨name, scope, (key, value) :: members⟩ :: outer)
    (hknown : ∀ target, memberName? style (key, value) = some target →
      target ∈ walk.findings.shapes.names) (trace : List InferenceEvent) :
    ∃ n ≤ 1, Mirrors style shapes
      ⟨⟨walk.findings.shapes.addField name (memberField style scope key value), trace⟩,
        ⟨name, (scope.assign key).2, members⟩ :: outer⟩
      ((Traversal.step shapes)^[n] t) closed (met ++ (walk.backReference? style).toList) := by
  obtain ⟨o, i, pending, visits, hframe, ht, hdeps, htail⟩ := h.innermost hf
  by_cases hnew : ∃ target, memberName? style (key, value) = some target ∧
      target ∉ o.noted style i
  · obtain ⟨target, href, hnew⟩ := hnew
    obtain ⟨rest, rfl, hrest⟩ :=
      SampledObject.pending_of_notMem_noted hframe.symm href hnew hdeps
    exact ⟨1, Nat.le_refl 1, h.note hb hf hframe.symm href (hknown target href) ht hrest htail trace⟩
  · have hold : ∀ target, memberName? style (key, value) = some target →
        target ∈ o.noted style i ∧ target ∈ shapes.names := by
      intro target href
      refine ⟨?_, hstored (hknown target href)⟩
      by_contra hnoted
      exact hnew ⟨target, href, hnoted⟩
    exact ⟨0, Nat.zero_le 1, h.stay hb hf hframe.symm ht hdeps htail hold trace⟩

/-- A member that declares an object is mirrored by entering the declaration. -/
theorem descend (h : Mirrors style shapes walk t closed met) (hb : shapes.Built)
    (hs : walk.Sound) (hf : walk.frames = ⟨name, scope, (key, value) :: members⟩ :: outer)
    {o' : SampledObject} (href : memberName? style (key, value) = some (o'.name style))
    (hfree : o'.name style ∉ walk.findings.shapes.names)
    (hstored : o'.declaration style ∈ shapes.declarations) (trace : List InferenceEvent) :
    Mirrors style shapes
      ⟨⟨(walk.findings.shapes.insertIfNew { name := o'.name style }).addField name
          (memberField style scope key value), trace⟩,
        o'.frame style 0 :: ⟨name, (scope.assign key).2, members⟩ :: outer⟩
      (Traversal.step shapes t) closed (met ++ (walk.backReference? style).toList) := by
  obtain ⟨o, i, pending, visits, hframe, ht, hdeps, htail⟩ := h.innermost hf
  have hfind : shapes.find? (o'.name style) = some (o'.declaration style) := by
    rw [← o'.name_declaration style]
    exact Shapes.find?_of_mem hb.nodup_names hstored
  have hunknown : o'.name style ∉ t.names := mt (h.names _).mpr hfree
  -- Had the traversal looked at the name before, it would have begun the declaration.
  have hnew : o'.name style ∉ o.noted style i := by
    intro hnoted
    have hname : o'.name style ∈ shapes.names := by
      rw [← o'.name_declaration style]
      exact List.mem_map_of_mem hstored
    exact hunknown (h.reached.judged hb ht hdeps hnoted hname).1
  obtain ⟨rest, rfl, hrest⟩ := SampledObject.pending_of_notMem_noted hframe.symm href hnew hdeps
  rw [Traversal.mem_names_iff, not_or, Bool.not_eq_true, Bool.not_eq_true] at hunknown
  have hback : walk.backReference? style = none := by
    refine Walk.backReference?_of_forall_notMem hf fun other hother hopen => ?_
    rw [href] at hother
    exact hfree (Option.some.inj hother ▸ hs.opened hopen)
  have hreached := h.reached.step
  rw [Traversal.step_enter ht hunknown.2 hunknown.1 hfind] at hreached ⊢
  refine ⟨hreached, ?_, fun other => ?_, h.closed, h.met_of_eq_none hback⟩
  · refine .cons ⟨o', 0, rfl, rfl, rfl⟩ (.cons ⟨o, i + 1, ?_, rfl, hrest⟩ htail)
    exact (SampledObject.frame_succ hframe.symm).symm
  · rw [Shapes.names_addField, Walk.names_declare hfree, List.mem_append, List.mem_singleton,
      h.names other]
    simp only [Traversal.names, Traversal.sequence, ht, List.map_append, List.map_cons,
      List.mem_append, List.mem_cons, o'.name_declaration style]
    tauto

end

/-! ## Step by step -/

theorem move (h : Mirrors style shapes walk t closed met) (hb : shapes.Built) (hs : walk.Sound)
    {walk' : Walk} (hm : Walk.Move style walk walk')
    (hin : walk'.completed style ⊆ shapes.declarations) :
    ∃ n ≤ 1, Mirrors style shapes walk' ((Traversal.step shapes)^[n] t)
      (closed ++ walk.closing?.toList) (met ++ (walk.backReference? style).toList) := by
  cases hm with
  | close trace hf =>
    rw [Walk.completed_close hf trace] at hin
    exact ⟨1, Nat.le_refl 1, h.close hb hs hin hf trace⟩
  | keep trace hf hknown =>
    rw [Walk.completed_keep hf trace] at hin
    rw [Walk.closing?_of_member hf, Option.toList_none, List.append_nil]
    refine h.keep hb ?_ hf (fun target href => ?_) trace
    · rw [← Walk.names_completed style]
      exact List.map_subset _ hin
    · obtain ⟨o, ho, rfl⟩ := Option.map_eq_some_iff.mp href
      exact hknown o ho
  | @descend name scope key value members outer o trace hf hfound hfree =>
    rw [hs.completed_descend hf hfree trace] at hin
    rw [Walk.closing?_of_member hf, Option.toList_none, List.append_nil]
    have href : memberName? style (key, value) = some (o.name style) := by
      rw [memberName?, hfound]
      rfl
    exact ⟨1, Nat.le_refl 1, h.descend hb hs hf href hfree (hin (by simp)) trace⟩

theorem run (hb : shapes.Built) (n : Nat) {walk : Walk} {t : Traversal}
    {closed : List Declaration} {met : List Edge} (h : Mirrors style shapes walk t closed met)
    (hs : walk.Sound) (hin : (walk.run style n).completed style ⊆ shapes.declarations) :
    ∃ k, Mirrors style shapes (walk.run style n) ((Traversal.step shapes)^[k] t)
      (closed ++ (walk.course style n).filterMap Walk.closing?)
      (met ++ (walk.course style n).filterMap (Walk.backReference? style)) := by
  induction n generalizing walk t closed met with
  | zero => exact ⟨0, by simpa [Walk.run, Walk.course] using h⟩
  | succ n ih =>
    rw [Walk.run] at hin ⊢
    rw [Walk.course]
    split
    · exact ⟨0, by simpa using h⟩
    · rename_i hf
      rw [if_neg hf] at hin
      have hm : Walk.Move style walk (walk.step style) := Walk.move_step (by simpa using hf)
      have hs' := hs.move hm
      obtain ⟨k, _, hk⟩ := h.move hb hs hm fun d hd => hin ((hs'.completed_isPrefix_run n).subset hd)
      obtain ⟨k', hk'⟩ := ih hk hs' hin
      refine ⟨k' + k, ?_⟩
      rw [Function.iterate_add_apply, filterMap_cons_eq, filterMap_cons_eq, ← List.append_assoc,
        ← List.append_assoc]
      exact hk'

end Mirrors

end SampleTypes
