import SampleTypes.Proofs.Emission.Traversal

/-!
# Which references are skipped

A declaration should be emitted after everything it refers to, and the traversal records the
references for which this fails. This file says that the record is exact: **a reference to a stored
declaration is skipped iff what it refers to does not come strictly before**
(`mem_skipped_emission_iff`), and it is recorded once.

The invariant is about `Traversal.sequence`, in which a declaration never changes its place relative
to another. So a reference can be judged at the moment at which it is looked at: what is finished
comes before, what enters comes before, and what is open comes after or is the declaration itself.
`Settled` says this of every reference that is not ahead of its declaration any more.
-/

set_option autoImplicit false

namespace SampleTypes

/-- A name stands in a list and another one after it. -/
def Precedes (names : List Text) (a b : Text) : Prop := [a, b].Sublist names

namespace Precedes

theorem mono {names names' : List Text} {a b : Text} (h : Precedes names a b)
    (hs : names.Sublist names') : Precedes names' a b := h.trans hs

theorem of_mem_append {before after : List Text} {a b : Text} (ha : a ∈ before) (hb : b ∈ after) :
    Precedes (before ++ after) a b :=
  (List.singleton_sublist.mpr ha).append (List.singleton_sublist.mpr hb)

theorem trans {names : List Text} (hn : names.Nodup) {a b c : Text} (hab : Precedes names a b)
    (hbc : Precedes names b c) : Precedes names a c := by
  induction names with
  | nil => exact absurd hab (by simp [Precedes])
  | cons x names ih =>
    obtain ⟨hx, hn⟩ := List.nodup_cons.mp hn
    rw [Precedes, List.sublist_cons_iff] at hab hbc
    rcases hbc with hbc | ⟨r, hr, hr'⟩
    · rcases hab with hab | ⟨r, hr, _⟩
      · exact mono (ih hn hab hbc) (List.sublist_cons_self x names)
      · obtain ⟨rfl, _⟩ := List.cons.inj hr
        refine List.cons_sublist_cons.mpr (List.singleton_sublist.mpr ?_)
        exact hbc.subset (by simp)
    · -- If the middle one is the head of the list, nothing is before it.
      obtain ⟨rfl, rfl⟩ := List.cons.inj hr
      rcases hab with hab | ⟨r, hr, hr'⟩
      · exact absurd (hab.subset (by simp)) hx
      · obtain ⟨rfl, rfl⟩ := List.cons.inj hr
        exact absurd (hr'.subset (by simp)) hx

theorem irrefl {names : List Text} (hn : names.Nodup) (a : Text) : ¬ Precedes names a a :=
  List.nodup_iff_sublist.mp hn a

/-- In a list without repetitions, only one of two names comes first. -/
theorem asymm {names : List Text} (hn : names.Nodup) {a b : Text} (h : Precedes names a b) :
    ¬ Precedes names b a := by
  intro h'
  exact irrefl hn a (h.trans hn h')

/-- Another name that enters the list does not matter. -/
theorem enter_iff {before after : List Text} {name a b : Text} (hn : name ∉ before ++ after)
    (ha : a ∈ before ++ after) (hb : b ∈ before ++ after) :
    Precedes (before ++ name :: after) a b ↔ Precedes (before ++ after) a b := by
  have hne : ∀ {c : Text}, c ∈ before ++ after → (c != name) = true :=
    fun hc => bne_iff_ne.mpr fun he => hn (he ▸ hc)
  constructor
  · intro h
    -- Leaving the other name out of both lists gives the two lists that are asked for.
    have hf := h.filter (· != name)
    have hab : [a, b].filter (· != name) = [a, b] := by simp only [List.filter, hne ha, hne hb]
    have hkeep : (before ++ name :: after).filter (· != name) = before ++ after := by
      rw [List.filter_append, List.filter_cons_of_neg (by simp), ← List.filter_append]
      exact List.filter_eq_self.mpr fun c hc => hne hc
    rwa [hab, hkeep] at hf
  · exact fun h => h.mono ((List.Sublist.refl _).append (List.sublist_cons_self _ _))

end Precedes

/-- The references of declarations, by name. -/
def edgesOf (ds : List Declaration) : List Edge :=
  ds.flatMap fun d => d.dependencies.map fun name => (d.name, name)

theorem mem_edgesOf {ds : List Declaration} {e : Edge} :
    e ∈ edgesOf ds ↔ ∃ d ∈ ds, d.name = e.1 ∧ e.2 ∈ d.dependencies := by
  obtain ⟨a, b⟩ := e
  simp only [edgesOf, List.mem_flatMap, List.mem_map, Prod.mk.injEq]
  constructor
  · rintro ⟨d, hd, name, hname, rfl, rfl⟩
    exact ⟨d, hd, rfl, hname⟩
  · rintro ⟨d, hd, rfl, hb⟩
    exact ⟨d, hd, b, hb, rfl, rfl⟩

namespace Traversal

/-! ## What is still ahead -/

/-- The references at which open declarations have still to look. -/
def aheadOf (frames : List (Declaration × List Text)) : List Edge :=
  frames.flatMap fun frame => frame.2.map fun name => (frame.1.name, name)

theorem aheadOf_cons (d : Declaration) (names : List Text)
    (outer : List (Declaration × List Text)) :
    aheadOf ((d, names) :: outer) = names.map (fun name => (d.name, name)) ++ aheadOf outer := rfl

theorem mem_aheadOf {frames : List (Declaration × List Text)} {e : Edge} :
    e ∈ aheadOf frames ↔ ∃ frame ∈ frames, frame.1.name = e.1 ∧ e.2 ∈ frame.2 := by
  obtain ⟨a, b⟩ := e
  simp only [aheadOf, List.mem_flatMap, List.mem_map, Prod.mk.injEq]
  constructor
  · rintro ⟨frame, hf, name, hname, rfl, rfl⟩
    exact ⟨frame, hf, rfl, hname⟩
  · rintro ⟨frame, hf, rfl, hb⟩
    exact ⟨frame, hf, b, hb, rfl, rfl⟩

/-- What the innermost declaration has not to look at any more is not ahead of another one. -/
theorem Coherent.notMem_aheadOf {shapes : Shapes} {t : Traversal} (h : Coherent shapes t)
    {d : Declaration} {pending names : List Text} {outer : List (Declaration × List Text)}
    (hf : t.frames = (d, pending) :: outer) {name : Text} (hn : name ∉ names) :
    (d.name, name) ∉ aheadOf ((d, names) :: outer) := by
  have honce : d.name ∉ outer.map (·.1.name) := by
    have hn := h.once
    simp only [Traversal.names, sequence, hf, List.map_append, List.map_map, List.map_cons] at hn
    exact (List.nodup_cons.mp hn.of_append_right).1
  rw [mem_aheadOf]
  rintro ⟨frame, hframe, hfd, hfn⟩
  rcases List.mem_cons.mp hframe with rfl | hframe
  · exact hn hfn
  · exact honce (List.mem_map.mpr ⟨frame, hframe, hfd⟩)

theorem Coherent.stored_of_mem_frames {shapes : Shapes} {t : Traversal} (h : Coherent shapes t)
    {frame : Declaration × List Text} (hf : frame ∈ t.frames) : frame.1 ∈ shapes.declarations :=
  h.stored _ (List.mem_append_right _ (List.mem_map_of_mem hf))

/-- No dependency is looked at twice. -/
theorem Coherent.nodup_pending {shapes : Shapes} {t : Traversal} (h : Coherent shapes t)
    (hd : ∀ d ∈ shapes.declarations, d.dependencies.Nodup) {frame : Declaration × List Text}
    (hf : frame ∈ t.frames) : frame.2.Nodup :=
  (hd _ (h.stored_of_mem_frames hf)).sublist (h.ahead frame hf).sublist

/-! ## The invariant -/

/-- Every reference that is not ahead any more was judged rightly. -/
structure Settled (shapes : Shapes) (t : Traversal) : Prop where
  /-- It was skipped iff what it refers to does not finish strictly before. -/
  judged : ∀ e ∈ edgesOf t.sequence, e ∉ aheadOf t.frames → e.2 ∈ shapes.names →
    e.2 ∈ t.names ∧ (e ∈ t.skipped ↔ ¬ Precedes t.names e.2 e.1)
  /-- Nothing else was skipped. -/
  skipped : ∀ e ∈ t.skipped, e ∈ edgesOf t.sequence ∧ e ∉ aheadOf t.frames ∧ e.2 ∈ shapes.names
  /-- Nothing was skipped twice. -/
  once : t.skipped.Nodup

/-- What an open declaration refers to and is open itself does not finish before it. -/
theorem Coherent.not_precedes_of_isOpen {shapes : Shapes} {t : Traversal} (h : Coherent shapes t)
    {d : Declaration} {names : List Text} {outer : List (Declaration × List Text)}
    (hf : t.frames = (d, names) :: outer) {name : Text} (ho : t.isOpen name = true) :
    ¬ Precedes t.names name d.name := by
  have hn := h.once
  have hsplit : t.names =
      t.finished.reverse.map (·.name) ++ [d.name] ++ outer.map (·.1.name) := by
    simp [Traversal.names, sequence, hf, Function.comp_def]
  obtain ⟨frame, hframe, hname⟩ := List.any_eq_true.mp ho
  rw [hf, List.mem_cons] at hframe
  rcases hframe with rfl | hframe
  · have hname : d.name = name := by simpa using hname
    subst hname
    exact fun hp => hp.asymm hn hp
  · have hname : frame.1.name = name := by simpa using hname
    refine Precedes.asymm hn ?_
    rw [hsplit]
    exact .of_mem_append (by simp) (List.mem_map.mpr ⟨frame, hframe, hname⟩)

/-- What is finished finishes before everything that is open. -/
theorem precedes_of_isFinished {t : Traversal} {d : Declaration} {names : List Text}
    {outer : List (Declaration × List Text)} (hf : t.frames = (d, names) :: outer) {name : Text}
    (hd : t.isFinished name = true) : Precedes t.names name d.name := by
  rw [Traversal.names, sequence, List.map_append]
  refine .of_mem_append ?_ (by simp [hf])
  simpa [isFinished] using hd

/-- Looking at a reference settles it, if it is judged rightly, and leaves all others alone. -/
theorem Settled.look {shapes : Shapes} {t t' : Traversal} (h : Settled shapes t) {e : Edge}
    (hmem : e ∈ edgesOf t.sequence) (hseq : t'.sequence = t.sequence)
    (hahead : ∀ x, x ∈ aheadOf t.frames ↔ x = e ∨ x ∈ aheadOf t'.frames)
    (hnew : e ∉ aheadOf t'.frames)
    (hskip : t'.skipped = t.skipped ∨ t'.skipped = e :: t.skipped ∧ e.2 ∈ shapes.names)
    (hjudged : e.2 ∈ shapes.names →
      e.2 ∈ t.names ∧ (e ∈ t'.skipped ↔ ¬ Precedes t.names e.2 e.1)) : Settled shapes t' := by
  have hnames : t'.names = t.names := by rw [Traversal.names, hseq, Traversal.names]
  have hfresh : e ∉ t.skipped := fun hs => (h.skipped e hs).2.1 ((hahead e).mpr (Or.inl rfl))
  -- The reference that is looked at is judged now; for all others nothing changes.
  have hother : ∀ x, x ≠ e → (x ∈ t'.skipped ↔ x ∈ t.skipped) := by
    intro x hx
    rcases hskip with hs | ⟨hs, _⟩
    · rw [hs]
    · rw [hs, List.mem_cons]
      exact or_iff_right hx
  refine ⟨fun x hx ha hk => ?_, fun x hx => ?_, ?_⟩
  · rw [hnames]
    by_cases hxe : x = e
    · subst hxe
      exact hjudged hk
    · rw [hother x hxe]
      exact h.judged x (hseq ▸ hx) (fun hm => ((hahead x).mp hm).elim hxe ha) hk
  · rw [hseq]
    by_cases hxe : x = e
    · subst hxe
      refine ⟨hmem, hnew, ?_⟩
      rcases hskip with hs | ⟨_, hk⟩
      · exact absurd (hs ▸ hx) hfresh
      · exact hk
    · obtain ⟨hm, ha, hk⟩ := h.skipped x ((hother x hxe).mp hx)
      exact ⟨hm, fun hm' => ha ((hahead x).mpr (Or.inr hm')), hk⟩
  · rcases hskip with hs | ⟨hs, _⟩
    · exact hs ▸ h.once
    · exact hs ▸ List.nodup_cons.mpr ⟨hfresh, h.once⟩

/-- A new declaration, with all its references ahead, settles nothing and unsettles nothing. -/
theorem Settled.push {shapes : Shapes} {t : Traversal} (h : Settled shapes t) {d : Declaration}
    (hd : d.name ∉ t.names) : Settled shapes (t.push d) := by
  have hnames : (t.push d).names =
      t.finished.reverse.map (·.name) ++ d.name :: (t.frames.map (·.1)).map (·.name) := by
    simp [Traversal.names, sequence_push]
  have hold : t.names = t.finished.reverse.map (·.name) ++ (t.frames.map (·.1)).map (·.name) := by
    simp [Traversal.names, sequence]
  -- References of the new declaration are told from all others by the name they start from.
  have hsource : ∀ e ∈ edgesOf t.sequence, e.1 ∈ t.names := by
    intro e he
    obtain ⟨x, hx, hn, _⟩ := mem_edgesOf.mp he
    exact hn ▸ List.mem_map_of_mem hx
  have hahead : ∀ e, e ∈ aheadOf (t.push d).frames ↔
      (d.name = e.1 ∧ e.2 ∈ d.dependencies) ∨ e ∈ aheadOf t.frames := by
    intro e
    simp [mem_aheadOf, Traversal.push]
  have hedges : ∀ e, e ∈ edgesOf (t.push d).sequence ↔
      (d.name = e.1 ∧ e.2 ∈ d.dependencies) ∨ e ∈ edgesOf t.sequence := by
    intro e
    simp [mem_edgesOf, mem_sequence_push]
  refine ⟨fun e he ha hk => ?_, fun e he => ?_, h.once⟩
  · rw [hahead, not_or] at ha
    have he := ((hedges e).mp he).resolve_left ha.1
    obtain ⟨hm, hj⟩ := h.judged e he ha.2 hk
    refine ⟨?_, ?_⟩
    · obtain ⟨x, hx, hname⟩ := List.mem_map.mp hm
      exact hname ▸ List.mem_map_of_mem (mem_sequence_push.mpr (Or.inr hx))
    · rw [hnames, Precedes.enter_iff (hold ▸ hd) (hold ▸ hm) (hold ▸ hsource e he), ← hold]
      exact hj
  · obtain ⟨hm, ha, hk⟩ := h.skipped e he
    refine ⟨(hedges e).mpr (Or.inr hm), ?_, hk⟩
    rw [hahead, not_or]
    exact ⟨fun hc => hd (hc.1 ▸ hsource e hm), ha⟩

/-- What is looked at next: it is a reference, it is ahead, and it will not be ahead again. -/
theorem Coherent.next {shapes : Shapes} {t : Traversal} (h : Coherent shapes t)
    (hd : ∀ d ∈ shapes.declarations, d.dependencies.Nodup) {d : Declaration} {name : Text}
    {names : List Text} {outer : List (Declaration × List Text)}
    (hf : t.frames = (d, name :: names) :: outer) :
    (d.name, name) ∈ edgesOf t.sequence ∧
      (∀ x, x ∈ aheadOf t.frames ↔ x = (d.name, name) ∨ x ∈ aheadOf ((d, names) :: outer)) ∧
      (d.name, name) ∉ aheadOf ((d, names) :: outer) := by
  have hframe : (d, name :: names) ∈ t.frames := hf ▸ List.mem_cons_self
  have hmem : d ∈ t.sequence := List.mem_append_right _ (List.mem_map_of_mem hframe)
  have hname : name ∈ d.dependencies := (h.ahead _ hframe).subset List.mem_cons_self
  refine ⟨mem_edgesOf.mpr ⟨d, hmem, rfl, hname⟩, ?_, h.notMem_aheadOf hf ?_⟩
  · intro x
    rw [hf, aheadOf_cons, aheadOf_cons, List.map_cons, List.cons_append, List.mem_cons]
  · exact (List.nodup_cons.mp (h.nodup_pending hd hframe)).1

/-- First the new declaration enters, and then the reference to it is settled. -/
theorem Settled.enter {shapes : Shapes} {t : Traversal} (h : Settled shapes t)
    (hc : Coherent shapes t) (hd : ∀ d ∈ shapes.declarations, d.dependencies.Nodup)
    {d next : Declaration} {names : List Text} {outer : List (Declaration × List Text)}
    (hf : t.frames = (d, next.name :: names) :: outer) (hout : next.name ∉ t.names) :
    Settled shapes
      { t with frames := (next, next.dependencies) :: (d, names) :: outer } := by
  obtain ⟨hmem, hahead, hnew⟩ := hc.next hd hf
  have hfresh : (d.name, next.name) ∉ t.skipped :=
    fun hs => (h.skipped _ hs).2.1 ((hahead _).mpr (Or.inl rfl))
  have hdname : d.name ∈ t.names := by
    obtain ⟨x, hx, hname, _⟩ := mem_edgesOf.mp hmem
    exact (show x.name = d.name from hname) ▸ List.mem_map_of_mem hx
  refine (h.push hout).look (e := (d.name, next.name)) ?_ (by simp [sequence, Traversal.push, hf])
    ?_ ?_ (Or.inl rfl) fun _ => ⟨?_, ?_⟩
  · obtain ⟨x, hx, hxe⟩ := mem_edgesOf.mp hmem
    exact mem_edgesOf.mpr ⟨x, mem_sequence_push.mpr (Or.inr hx), hxe⟩
  · intro x
    simp only [Traversal.push, aheadOf_cons next, List.mem_append, hahead x]
    exact or_left_comm
  · rw [aheadOf_cons, List.mem_append, not_or]
    refine ⟨fun hc' => ?_, hnew⟩
    obtain ⟨_, _, he⟩ := List.mem_map.mp hc'
    exact hout ((Prod.mk.inj he).1 ▸ hdname)
  · exact List.mem_map_of_mem (mem_sequence_push.mpr (Or.inl rfl))
  · refine iff_of_false hfresh (not_not_intro ?_)
    rw [Traversal.names, sequence_push, List.map_append, List.map_cons, hf]
    exact ((List.cons_sublist_cons.mpr (by simp)).trans (List.sublist_append_right _ _))

theorem Settled.move {shapes : Shapes} {t t' : Traversal} (h : Settled shapes t)
    (hc : Coherent shapes t) (hd : ∀ d ∈ shapes.declarations, d.dependencies.Nodup)
    (hm : Move shapes t t') : Settled shapes t' := by
  cases hm with
  | @finish d outer hf =>
    have hahead : aheadOf t.frames = aheadOf outer := by rw [hf, aheadOf_cons]; rfl
    have hseq : ({ t with frames := outer, finished := d :: t.finished } : Traversal).sequence =
        t.sequence := by simp [sequence, hf]
    exact ⟨by rw [Traversal.names, hseq]; exact hahead ▸ h.judged,
      by rw [hseq]; exact hahead ▸ h.skipped, h.once⟩
  | @skip d name names outer hf ho =>
    obtain ⟨hmem, hahead, hnew⟩ := hc.next hd hf
    have hknown : name ∈ t.names := mem_names_iff.mpr (Or.inr ho)
    obtain ⟨e, he, hname⟩ := List.mem_map.mp hknown
    have hstored : name ∈ shapes.names := hname ▸ List.mem_map_of_mem (hc.stored e he)
    refine h.look hmem (by simp [sequence, hf]) hahead hnew (Or.inr ⟨rfl, hstored⟩) fun _ => ?_
    exact ⟨hknown, iff_of_true List.mem_cons_self (hc.not_precedes_of_isOpen hf ho)⟩
  | @pass d name names outer hf hfin =>
    obtain ⟨hmem, hahead, hnew⟩ := hc.next hd hf
    have hfresh : (d.name, name) ∉ t.skipped :=
      fun hs => (h.skipped _ hs).2.1 ((hahead _).mpr (Or.inl rfl))
    refine h.look hmem (by simp [sequence, hf]) hahead hnew (Or.inl rfl) fun _ => ?_
    exact ⟨mem_names_iff.mpr (Or.inl hfin),
      iff_of_false hfresh (not_not_intro (precedes_of_isFinished hf hfin))⟩
  | @miss d name names outer hf hn =>
    obtain ⟨hmem, hahead, hnew⟩ := hc.next hd hf
    refine h.look hmem (by simp [sequence, hf]) hahead hnew (Or.inl rfl) fun hk => ?_
    exact absurd hk (Shapes.find?_eq_none_iff.mp hn)
  | @enter d next name names outer hf ho hfin hn =>
    obtain ⟨_, rfl⟩ := Shapes.mem_of_find? hn
    exact h.enter hc hd hf (by simp [mem_names_iff, ho, hfin])

theorem Reached.settled {shapes : Shapes} {t : Traversal} (h : Reached shapes t)
    (hd : ∀ d ∈ shapes.declarations, d.dependencies.Nodup) : Settled shapes t := by
  induction h with
  | start => exact ⟨by simp [edgesOf, sequence], by simp, List.nodup_nil⟩
  | push _ hf _ hn ih => exact ih.push (notMem_names_of_done hf hn)
  | @step t ht ih =>
    by_cases hf : t.frames = []
    · rwa [step_of_done hf]
    · exact ih.move ht.coherent hd (move_step hf)

/-- At a dependency that is not pending any more the innermost declaration has looked. -/
theorem Reached.judged {shapes : Shapes} {t : Traversal} (h : Reached shapes t)
    (hb : shapes.Built) {d : Declaration} {looked pending : List Text}
    {outer : List (Declaration × List Text)} (hf : t.frames = (d, pending) :: outer)
    (hdeps : d.dependencies = looked ++ pending) {name : Text} (hlooked : name ∈ looked)
    (hstored : name ∈ shapes.names) :
    name ∈ t.names ∧ ((d.name, name) ∈ t.skipped ↔ ¬ Precedes t.names name d.name) := by
  have hnodup : ∀ d ∈ shapes.declarations, d.dependencies.Nodup :=
    fun d hd => (hb.filled d hd).nodup_dependencies
  have hframe : (d, pending) ∈ t.frames := hf ▸ List.mem_cons_self
  have hd := hnodup d (h.coherent.stored_of_mem_frames hframe)
  rw [hdeps] at hd
  refine (h.settled hnodup).judged (d.name, name) ?_ ?_ hstored
  · refine mem_edgesOf.mpr ⟨d, List.mem_append_right _ (List.mem_map_of_mem hframe), rfl, ?_⟩
    rw [hdeps]
    exact List.mem_append_left _ hlooked
  · rw [hf]
    exact h.coherent.notMem_aheadOf hf fun hp => (List.disjoint_of_nodup_append hd) hlooked hp

end Traversal

/-! ## The record of the order -/

namespace Shapes

theorem nodup_names_emission {shapes : Shapes} (h : shapes.Built) :
    (shapes.emission.declarations.map (·.name)).Nodup :=
  ((Traversal.perm_emission h.nodup_names).map _).nodup_iff.mpr h.nodup_names

/-- A reference is skipped iff it points at a stored declaration that does not come before. -/
theorem mem_skipped_emission_iff {shapes : Shapes} (h : shapes.Built) {e : Edge} :
    e ∈ shapes.emission.skipped ↔ e ∈ edgesOf shapes.declarations ∧ e.2 ∈ shapes.names ∧
      ¬ Precedes (shapes.emission.declarations.map (·.name)) e.2 e.1 := by
  obtain ⟨t, ht, hf, _, he⟩ := Traversal.exists_reached_emission shapes
  have hs : t.Settled shapes := ht.settled fun d hd => (h.filled d hd).nodup_dependencies
  have hperm := Traversal.perm_emission h.nodup_names
  rw [he] at hperm ⊢
  have hedges : e ∈ edgesOf t.sequence ↔ e ∈ edgesOf shapes.declarations := by
    simp only [mem_edgesOf, hperm.mem_iff]
  have hnone : e ∉ Traversal.aheadOf t.frames := by simp [hf, Traversal.aheadOf]
  rw [List.mem_reverse, ← hedges]
  constructor
  · intro hm
    obtain ⟨hmem, _, hk⟩ := hs.skipped e hm
    exact ⟨hmem, hk, ((hs.judged e hmem hnone hk).2).mp hm⟩
  · rintro ⟨hmem, hk, hp⟩
    exact ((hs.judged e hmem hnone hk).2).mpr hp

theorem nodup_skipped_emission {shapes : Shapes} (h : shapes.Built) :
    shapes.emission.skipped.Nodup := by
  obtain ⟨t, ht, _, _, he⟩ := Traversal.exists_reached_emission shapes
  rw [he]
  exact List.nodup_reverse.mpr (ht.settled fun d hd => (h.filled d hd).nodup_dependencies).once

/-- **The order of emission is complete and its record exact.** Every stored declaration is emitted
once; a reference between stored declarations is skipped iff what it refers to does not come
strictly before; and nothing else is skipped, and nothing twice. -/
theorem emission_exact {shapes : Shapes} (h : shapes.Built) :
    shapes.emission.declarations.Perm shapes.declarations ∧
    (shapes.emission.declarations.map (·.name)).Nodup ∧
    (∀ d ∈ shapes.declarations, ∀ name ∈ d.dependencies, name ∈ shapes.names →
      ((d.name, name) ∈ shapes.emission.skipped ↔
        ¬ Precedes (shapes.emission.declarations.map (·.name)) name d.name)) ∧
    shapes.emission.skipped.Nodup ∧
    ∀ e ∈ shapes.emission.skipped, e.2 ∈ shapes.names ∧
      ∃ d ∈ shapes.declarations, d.name = e.1 ∧ e.2 ∈ d.dependencies := by
  refine ⟨Traversal.perm_emission h.nodup_names, nodup_names_emission h,
    fun d hd name hname hk => ?_, nodup_skipped_emission h, fun e he => ?_⟩
  · have hmem : (d.name, name) ∈ edgesOf shapes.declarations :=
      mem_edgesOf.mpr ⟨d, hd, rfl, hname⟩
    rw [mem_skipped_emission_iff h]
    exact ⟨fun hs => hs.2.2, fun hp => ⟨hmem, hk, hp⟩⟩
  · obtain ⟨hmem, hk, _⟩ := (mem_skipped_emission_iff h).mp he
    exact ⟨hk, mem_edgesOf.mp hmem⟩

/-- A store in which `a` refers to itself, `a` and `b` to each other and both to `c`, and `b` to a
name that is not stored. -/
def tangle : Shapes :=
  let a : Text := [.scalar 'a']
  let b : Text := [.scalar 'b']
  let c : Text := [.scalar 'c']
  let refersTo (name : Text) : Field := ⟨name, name, .list (.ref name)⟩
  let stored := (({} : Shapes).insertIfNew { name := a }).insertIfNew { name := b }
  (stored.insertIfNew { name := c } |>.addField a (refersTo a) |>.addField a (refersTo b)
    |>.addField a (refersTo c) |>.addField b (refersTo a) |>.addField b (refersTo c)
    |>.addField b (refersTo [.scalar 'd']))

theorem built_tangle : tangle.Built :=
  .addField _ _ (.addField _ _ (.addField _ _ (.addField _ _ (.addField _ _ (.addField _ _
    (.insert (.insert (.insert .empty (.empty _)) (.empty _)) (.empty _)))))))

theorem emission_exact_tangle :
    tangle.Built ∧ tangle.emission.declarations.Perm tangle.declarations ∧
    (tangle.emission.declarations.map (·.name)).Nodup ∧
    (∀ d ∈ tangle.declarations, ∀ name ∈ d.dependencies, name ∈ tangle.names →
      ((d.name, name) ∈ tangle.emission.skipped ↔
        ¬ Precedes (tangle.emission.declarations.map (·.name)) name d.name)) ∧
    tangle.emission.skipped.Nodup ∧
    ∀ e ∈ tangle.emission.skipped, e.2 ∈ tangle.names ∧
      ∃ d ∈ tangle.declarations, d.name = e.1 ∧ e.2 ∈ d.dependencies :=
  ⟨built_tangle, emission_exact built_tangle⟩

example : tangle.emission.declarations.map (·.name) =
      [[.scalar 'c'], [.scalar 'b'], [.scalar 'a']] ∧
    tangle.emission.skipped =
      [([.scalar 'a'], [.scalar 'a']), ([.scalar 'b'], [.scalar 'a'])] := by
  decide

end Shapes

end SampleTypes
