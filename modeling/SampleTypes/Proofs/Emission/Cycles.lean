import Mathlib.Data.List.Chain
import Mathlib.Logic.Relation
import SampleTypes.Proofs.Emission.Precedence

/-!
# Only references on cycles are skipped

The declarations that are being visited form a path: each was entered by a reference of the one around
it (`Traversal.IsPath`). A reference that is skipped leads back to one of them, so **it lies on a cycle**
(`Traversal.Reached.onCycle`). All others are respected: at the end a reference between stored
declarations was skipped, or what it refers to comes strictly before (`Traversal.Looked`). Together they
say that without cycles the order of emission is a topological one.

Nothing is asked here of how a declaration got its dependencies; it may even list one twice.
-/

set_option autoImplicit false

namespace SampleTypes

namespace Shapes

/-- A stored declaration refers to a stored one; both are given by their names. -/
def Refers (shapes : Shapes) (source target : Text) : Prop :=
  (source, target) ∈ edgesOf shapes.declarations ∧ target ∈ shapes.names

/-- A reference between stored declarations lies on a cycle: along such references what it refers to
leads back to where it starts. -/
def OnCycle (shapes : Shapes) (source target : Text) : Prop :=
  shapes.Refers source target ∧ Relation.ReflTransGen shapes.Refers target source

/-- No reference between stored declarations leads back to where it starts. -/
def IsAcyclic (shapes : Shapes) : Prop := ∀ name, ¬ Relation.TransGen shapes.Refers name name

theorem IsAcyclic.not_onCycle {shapes : Shapes} (h : shapes.IsAcyclic) (source target : Text) :
    ¬ shapes.OnCycle source target := fun hc => h source (.head' hc.1 hc.2)

end Shapes

namespace Traversal

variable {shapes : Shapes} {t t' : Traversal} {d : Declaration} {name : Text} {names : List Text}
  {outer : List (Declaration × List Text)}

/-! ## The path of what is being visited -/

/-- Each declaration that is being visited is one to which the next one outwards refers. -/
def IsPath (shapes : Shapes) (t : Traversal) : Prop :=
  (t.frames.map (·.1.name)).IsChain fun inner outer => shapes.Refers outer inner

/-- The dependency to be looked at next is a reference, if it is to a stored declaration. -/
theorem Coherent.refers (h : Coherent shapes t) (hf : t.frames = (d, name :: names) :: outer)
    (hstored : name ∈ shapes.names) : shapes.Refers d.name name := by
  have hframe : (d, name :: names) ∈ t.frames := hf ▸ List.mem_cons_self
  have hdependency : name ∈ d.dependencies := (h.ahead _ hframe).subset List.mem_cons_self
  exact ⟨mem_edgesOf.mpr ⟨d, h.stored_of_mem_frames hframe, rfl, hdependency⟩, hstored⟩

theorem IsPath.move (h : IsPath shapes t) (hc : Coherent shapes t) (hm : Move shapes t t') :
    IsPath shapes t' := by
  rw [IsPath] at h ⊢
  cases hm with
  | finish hf =>
    rw [hf] at h
    exact h.tail
  | skip hf _ => simpa [hf] using h
  | pass hf _ => simpa [hf] using h
  | miss hf _ => simpa [hf] using h
  | enter hf _ _ hn =>
    obtain ⟨hstored, rfl⟩ := Shapes.mem_of_find? hn
    have hrefers := hc.refers hf (List.mem_map_of_mem hstored)
    rw [hf] at h
    exact List.isChain_cons_cons.mpr ⟨hrefers, h⟩

theorem Reached.isPath (h : Reached shapes t) : IsPath shapes t := by
  induction h using Reached.move_induction with
  | start => exact .nil
  | push _ hf _ _ _ => simp [IsPath, Traversal.push, hf]
  | move ht _ hm ih => exact ih.move ht.coherent hm

/-- Everything on a path leads to its innermost declaration. -/
theorem reaches_of_isChain {inner : Text} {path : List Text}
    (h : (inner :: path).IsChain fun inner outer => shapes.Refers outer inner) {name : Text}
    (hmem : name ∈ inner :: path) : Relation.ReflTransGen shapes.Refers name inner := by
  induction path generalizing inner with
  | nil =>
    rw [List.mem_singleton.mp hmem]
  | cons next path ih =>
    obtain ⟨hrefers, hpath⟩ := List.isChain_cons_cons.mp h
    rcases List.mem_cons.mp hmem with rfl | hmem
    · exact .refl
    · exact (ih hpath hmem).tail hrefers

theorem IsPath.reaches (h : IsPath shapes t) {pending : List Text}
    (hf : t.frames = (d, pending) :: outer) (ho : t.isOpen name = true) :
    Relation.ReflTransGen shapes.Refers name d.name := by
  rw [IsPath, hf] at h
  obtain ⟨frame, hframe, hname⟩ := List.any_eq_true.mp ho
  have hname : frame.1.name = name := by simpa using hname
  refine reaches_of_isChain h ?_
  show name ∈ ((d, pending) :: outer).map (·.1.name)
  exact List.mem_map.mpr ⟨frame, hf ▸ hframe, hname⟩

/-! ## What is skipped -/

theorem IsPath.onCycle_move (h : IsPath shapes t) (hc : Coherent shapes t)
    (hskipped : ∀ e ∈ t.skipped, shapes.OnCycle e.1 e.2) (hm : Move shapes t t') :
    ∀ e ∈ t'.skipped, shapes.OnCycle e.1 e.2 := by
  cases hm with
  | finish _ => exact hskipped
  | pass _ _ => exact hskipped
  | miss _ _ => exact hskipped
  | enter _ _ _ _ => exact hskipped
  | @skip d name _ _ hf ho =>
    -- What is open is stored, and the path leads from it to the innermost declaration.
    have hstored : name ∈ shapes.names := by
      obtain ⟨e, he, hname⟩ := List.mem_map.mp (mem_names_iff.mpr (Or.inr ho))
      exact hname ▸ List.mem_map_of_mem (hc.stored e he)
    exact List.forall_mem_cons.mpr ⟨⟨hc.refers hf hstored, h.reaches hf ho⟩, hskipped⟩

/-- **A reference is skipped only if it lies on a cycle.** -/
theorem Reached.onCycle (h : Reached shapes t) : ∀ e ∈ t.skipped, shapes.OnCycle e.1 e.2 := by
  induction h using Reached.move_induction with
  | start => simp
  | push _ _ _ _ ih => exact ih
  | move ht _ hm ih => exact ht.isPath.onCycle_move ht.coherent ih hm

/-! ## What is respected -/

/-- A reference between stored declarations at which the traversal has looked was skipped, or it is
respected by the order. -/
def Looked (shapes : Shapes) (t : Traversal) : Prop :=
  ∀ e ∈ edgesOf t.sequence, e.2 ∈ shapes.names →
    e ∈ aheadOf t.frames ∨ e ∈ t.skipped ∨ Precedes t.names e.2 e.1

/-- A declaration that enters has all its references ahead, and those of others are as they were. -/
theorem Looked.push (h : Looked shapes t) (d : Declaration) : Looked shapes (t.push d) := by
  have hnames : t.names.Sublist (t.push d).names :=
    ((List.Sublist.refl _).append (List.sublist_cons_self _ _)).map _
  intro e he hk
  obtain ⟨x, hx, hxe⟩ := mem_edgesOf.mp he
  rw [Traversal.push, aheadOf_cons, List.mem_append]
  rcases mem_sequence_push.mp hx with rfl | hx
  · obtain ⟨source, target⟩ := e
    obtain ⟨rfl, htarget⟩ := hxe
    exact Or.inl (Or.inl (List.mem_map_of_mem htarget))
  · rcases h e (mem_edgesOf.mpr ⟨x, hx, hxe⟩) hk with ha | hs | hp
    · exact Or.inl (Or.inr ha)
    · exact Or.inr (Or.inl hs)
    · exact Or.inr (Or.inr (hp.mono hnames))

/-- After a look at one more reference, this is the only one that is not ahead any more. -/
theorem Looked.look (h : Looked shapes t) {e : Edge} (hseq : t'.sequence = t.sequence)
    (hahead : ∀ x ∈ aheadOf t.frames, x = e ∨ x ∈ aheadOf t'.frames) (hskipped : t.skipped ⊆ t'.skipped)
    (hjudged : e.2 ∈ shapes.names → e ∈ t'.skipped ∨ Precedes t.names e.2 e.1) :
    Looked shapes t' := by
  intro x hx hk
  rw [Traversal.names, hseq]
  rcases h x (hseq ▸ hx) hk with ha | hs | hp
  · rcases hahead x ha with rfl | ha
    · exact Or.inr (hjudged hk)
    · exact Or.inl ha
  · exact Or.inr (Or.inl (hskipped hs))
  · exact Or.inr (Or.inr hp)

/-- The next dependency of the innermost declaration is the first reference that is ahead. -/
theorem mem_aheadOf_next (hf : t.frames = (d, name :: names) :: outer) :
    ∀ x ∈ aheadOf t.frames, x = (d.name, name) ∨ x ∈ aheadOf ((d, names) :: outer) := by
  intro x hx
  rw [hf, aheadOf_cons, List.map_cons, List.cons_append] at hx
  exact List.mem_cons.mp hx

theorem Looked.move (h : Looked shapes t) (hm : Move shapes t t') : Looked shapes t' := by
  cases hm with
  | @finish d outer hf =>
    have hseq : ({ t with frames := outer, finished := d :: t.finished } : Traversal).sequence =
        t.sequence := by simp [sequence, hf]
    intro e he hk
    rw [hseq] at he
    have hlooked := h e he hk
    rw [hf] at hlooked
    rwa [Traversal.names, hseq]
  | skip hf _ =>
    exact h.look (by simp [sequence, hf]) (mem_aheadOf_next hf) (List.subset_cons_self _ _)
      fun _ => Or.inl List.mem_cons_self
  | pass hf hfin =>
    exact h.look (by simp [sequence, hf]) (mem_aheadOf_next hf) (List.Subset.refl _)
      fun _ => Or.inr (precedes_of_isFinished hf hfin)
  | miss hf hn =>
    exact h.look (by simp [sequence, hf]) (mem_aheadOf_next hf) (List.Subset.refl _)
      fun hk => absurd hk (Shapes.find?_eq_none_iff.mp hn)
  | @enter d next name names outer hf _ _ hn =>
    -- First the new declaration enters, and then the reference to it has been looked at.
    obtain ⟨_, rfl⟩ := Shapes.mem_of_find? hn
    refine (h.push next).look (e := (d.name, next.name)) (by simp [sequence, Traversal.push, hf])
      (fun x hx => ?_) (List.Subset.refl _) fun _ => Or.inr ?_
    · rw [Traversal.push, aheadOf_cons, List.mem_append] at hx
      rw [aheadOf_cons, List.mem_append]
      rcases hx with hx | hx
      · exact Or.inr (Or.inl hx)
      · exact (mem_aheadOf_next hf x hx).imp_right Or.inr
    · rw [Traversal.names, sequence_push, List.map_append, List.map_cons, hf]
      exact (List.cons_sublist_cons.mpr (by simp)).trans (List.sublist_append_right _ _)

theorem Reached.looked (h : Reached shapes t) : Looked shapes t := by
  induction h using Reached.move_induction with
  | start => simp [Looked, edgesOf, sequence]
  | push _ _ _ _ ih => exact ih.push _
  | move _ _ hm ih => exact ih.move hm

end Traversal

/-! ## The whole order -/

namespace Shapes

variable {shapes : Shapes}

theorem onCycle_of_mem_skipped {e : Edge} (h : e ∈ shapes.emission.skipped) :
    shapes.OnCycle e.1 e.2 := by
  obtain ⟨t, ht, _, _, he⟩ := Traversal.exists_reached_emission shapes
  rw [he] at h
  exact ht.onCycle e (List.mem_reverse.mp h)

/-- A reference between stored declarations is skipped, or what it refers to comes strictly before. -/
theorem mem_skipped_or_precedes (hn : shapes.names.Nodup) {source target : Text}
    (h : shapes.Refers source target) : (source, target) ∈ shapes.emission.skipped ∨
      Precedes (shapes.emission.declarations.map (·.name)) target source := by
  obtain ⟨t, ht, hf, _, he⟩ := Traversal.exists_reached_emission shapes
  have hperm := Traversal.perm_emission hn
  rw [he] at hperm ⊢
  have hedge : (source, target) ∈ edgesOf t.sequence := by
    obtain ⟨d, hd, hde⟩ := mem_edgesOf.mp h.1
    exact mem_edgesOf.mpr ⟨d, hperm.mem_iff.mpr hd, hde⟩
  rcases ht.looked _ hedge h.2 with ha | hs | hp
  · simp [hf, Traversal.aheadOf] at ha
  · exact Or.inl (List.mem_reverse.mpr hs)
  · exact Or.inr hp

/-- **Only cycles are broken.** Every reference that is skipped lies on a cycle of references between
stored declarations. So one that lies on no cycle has what it refers to strictly before it, and without
cycles nothing is skipped, and the order is a topological one. -/
theorem emission_breaks_cycles (hn : shapes.names.Nodup) :
    (∀ e ∈ shapes.emission.skipped, shapes.OnCycle e.1 e.2) ∧
    (∀ source target, shapes.Refers source target → ¬ shapes.OnCycle source target →
      Precedes (shapes.emission.declarations.map (·.name)) target source) ∧
    (shapes.IsAcyclic → shapes.emission.skipped = [] ∧
      shapes.emission.declarations.Perm shapes.declarations ∧
      ∀ source target, shapes.Refers source target →
        Precedes (shapes.emission.declarations.map (·.name)) target source) := by
  have hbroken : ∀ e ∈ shapes.emission.skipped, shapes.OnCycle e.1 e.2 :=
    fun _ he => onCycle_of_mem_skipped he
  have hrespected : ∀ source target, shapes.Refers source target →
      ¬ shapes.OnCycle source target →
      Precedes (shapes.emission.declarations.map (·.name)) target source := by
    intro source target hrefers hno
    exact (mem_skipped_or_precedes hn hrefers).resolve_left fun hs => hno (hbroken _ hs)
  refine ⟨hbroken, hrespected, fun hacyclic => ⟨?_, Traversal.perm_emission hn, ?_⟩⟩
  · exact List.eq_nil_iff_forall_not_mem.mpr fun e he =>
      hacyclic.not_onCycle e.1 e.2 (hbroken e he)
  · exact fun source target hrefers =>
      hrespected source target hrefers (hacyclic.not_onCycle source target)

theorem emission_breaks_cycles_tangle :
    tangle.names.Nodup ∧
    (∀ e ∈ tangle.emission.skipped, tangle.OnCycle e.1 e.2) ∧
    (∀ source target, tangle.Refers source target → ¬ tangle.OnCycle source target →
      Precedes (tangle.emission.declarations.map (·.name)) target source) ∧
    (tangle.IsAcyclic → tangle.emission.skipped = [] ∧
      tangle.emission.declarations.Perm tangle.declarations ∧
      ∀ source target, tangle.Refers source target →
        Precedes (tangle.emission.declarations.map (·.name)) target source) :=
  ⟨by decide, emission_breaks_cycles (by decide)⟩

end Shapes

end SampleTypes
