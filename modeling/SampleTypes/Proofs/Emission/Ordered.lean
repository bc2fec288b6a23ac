import SampleTypes.Proofs.Emission.Cycles

/-!
# Stores that are in order already

A store is in order if whatever a declaration refers to stands strictly before it, as far as it is
stored at all. The traversal of such a store never goes deeper than one declaration: where it looks,
it finds what is finished, or what no declaration has. So

> **a store that is in order is emitted as it stands**, with nothing skipped.

What is emitted without cycles is in order itself (`Shapes.IsAcyclic.isOrdered_emission`), so to store
it anew and to emit it again changes nothing.
-/

set_option autoImplicit false

namespace SampleTypes

theorem Precedes.mem_of_nodup {before after : List Text} {a b : Text}
    (hn : (before ++ b :: after).Nodup) (h : Precedes (before ++ b :: after) a b) : a ∈ before := by
  have hmem : a ∈ before ++ b :: after := h.subset List.mem_cons_self
  rcases List.mem_append.mp hmem with hbefore | hmem
  · exact hbefore
  rcases List.mem_cons.mp hmem with rfl | hafter
  · exact absurd h (Precedes.irrefl hn a)
  · have hb : Precedes ((before ++ [b]) ++ after) b a := .of_mem_append (by simp) hafter
    rw [List.append_assoc, List.singleton_append] at hb
    exact absurd h (hb.asymm hn)

namespace Shapes

variable {shapes : Shapes}

/-- Whatever a declaration refers to stands strictly before it, if it is stored. -/
def IsOrdered (shapes : Shapes) : Prop :=
  ∀ source target, shapes.Refers source target → Precedes shapes.names target source

/-- The store into which declarations were put one after another. -/
def ofDeclarations (ds : List Declaration) : Shapes := ds.foldl insertIfNew empty

theorem declarations_foldl_insertIfNew {ds : List Declaration}
    (hn : (shapes.names ++ ds.map (·.name)).Nodup) :
    (ds.foldl insertIfNew shapes).declarations = shapes.declarations ++ ds := by
  induction ds generalizing shapes with
  | nil => simp
  | cons d ds ih =>
    have hfree : d.name ∉ shapes.names := fun hd =>
      (List.disjoint_of_nodup_append hn) hd (by simp)
    have hnames : (shapes.insertIfNew d).names = shapes.names ++ [d.name] := by
      rw [names, insertIfNew_of_free hfree]
      simp [names]
    have hrest : ((shapes.insertIfNew d).names ++ ds.map (·.name)).Nodup := by
      rw [hnames]
      simpa using hn
    rw [List.foldl_cons, ih hrest, insertIfNew_of_free hfree]
    simp

/-- Declarations with different names are stored as they come. -/
theorem declarations_ofDeclarations {ds : List Declaration} (hn : (ds.map (·.name)).Nodup) :
    (ofDeclarations ds).declarations = ds := by
  have hnames : (empty.names ++ ds.map (·.name)).Nodup := hn
  exact declarations_foldl_insertIfNew hnames

end Shapes

namespace Traversal

variable {shapes : Shapes} {t : Traversal} {d : Declaration}

/-! ## Nothing is begun on the way -/

/-- The innermost declaration is finished next if all that it has still to look at is finished, or not
stored. -/
theorem leads_finish {names : List Text} {outer : List (Declaration × List Text)}
    (hf : t.frames = (d, names) :: outer) (hclosed : ∀ name ∈ names, t.isOpen name = false)
    (hnames : ∀ name ∈ names, t.isFinished name = true ∨ name ∉ shapes.names) :
    Leads (step shapes) t { t with frames := outer, finished := d :: t.finished } := by
  induction names generalizing t with
  | nil => exact .of_step (step_finish hf) (.refl _)
  | cons name names ih =>
    have ho := hclosed name List.mem_cons_self
    have hstep : step shapes t = { t with frames := (d, names) :: outer } := by
      cases hd : t.isFinished name with
      | true => exact step_pass hf ho hd
      | false =>
        have hmissing : name ∉ shapes.names :=
          (hnames name List.mem_cons_self).resolve_left (by simp [hd])
        exact step_miss hf ho hd (Shapes.find?_eq_none_iff.mpr hmissing)
    refine .of_step hstep (ih rfl (fun other hother => ?_) fun other hother => ?_)
    · have hsame := hclosed other (List.mem_cons_of_mem _ hother)
      simpa [isOpen, hf] using hsame
    · exact hnames other (List.mem_cons_of_mem _ hother)

/-- A declaration is finished at once if what it refers to is finished, or not stored. -/
theorem visit_of_finished (h : Reached shapes t) (hf : t.frames = []) (hd : d ∈ shapes.declarations)
    (hn : t.isFinished d.name = false)
    (hdeps : ∀ name ∈ d.dependencies, t.isFinished name = true ∨ name ∉ shapes.names) :
    visit shapes t d = { t with finished := d :: t.finished } := by
  -- It does not refer to itself: it is stored, and not finished yet.
  have hclosed : ∀ name ∈ d.dependencies, (t.push d).isOpen name = false := by
    intro name hname
    have hne : d.name ≠ name := by
      rintro rfl
      rcases hdeps _ hname with hfinished | hmissing
      · rw [hn] at hfinished
        cases hfinished
      · exact hmissing (List.mem_map_of_mem hd)
    simp [isOpen, push, hf, hne]
  have hleads : Leads (step shapes) (t.push d) { t with finished := d :: t.finished } := by
    have hfinish := leads_finish (t := t.push d) rfl hclosed hdeps
    simpa only [push, hf] using hfinish
  exact h.visit_eq_of_leads hf hd hn hleads hf

/-- The declarations of a store that is in order are finished one after another: the invariant is that
so far the first ones are. -/
theorem visitAll_of_isOrdered (hn : shapes.names.Nodup) (ho : shapes.IsOrdered)
    {before after : List Declaration} (hsplit : shapes.declarations = before ++ after)
    (h : Reached shapes { finished := before.reverse }) :
    after.foldl (visit shapes) { finished := before.reverse } =
      { finished := shapes.declarations.reverse } := by
  -- All that stands before the next declaration is finished, so a visit of it enters nothing else.
  induction after generalizing before with
  | nil => rw [hsplit, List.append_nil, List.foldl_nil]
  | cons d after ih =>
    have hd : d ∈ shapes.declarations := hsplit ▸ List.mem_append_right _ List.mem_cons_self
    have hnames : shapes.names = before.map (·.name) ++ d.name :: after.map (·.name) := by
      rw [Shapes.names, hsplit, List.map_append, List.map_cons]
    have hnew : d.name ∉ before.map (·.name) := by
      rw [hnames] at hn
      exact fun hbefore => (List.disjoint_of_nodup_append hn) hbefore List.mem_cons_self
    have hfinished : ∀ name, ({ finished := before.reverse } : Traversal).isFinished name = true ↔
        name ∈ before.map (·.name) := by
      intro name
      simp [isFinished]
    have hdeps : ∀ name ∈ d.dependencies,
        ({ finished := before.reverse } : Traversal).isFinished name = true ∨ name ∉ shapes.names := by
      intro name hname
      by_cases hstored : name ∈ shapes.names
      · have hrefers : shapes.Refers d.name name :=
          ⟨mem_edgesOf.mpr ⟨d, hd, rfl, hname⟩, hstored⟩
        have hbefore := ho _ _ hrefers
        rw [hnames] at hbefore hn
        exact Or.inl ((hfinished name).mpr (hbefore.mem_of_nodup hn))
      · exact Or.inr hstored
    have hunfinished : ({ finished := before.reverse } : Traversal).isFinished d.name = false :=
      Bool.eq_false_iff.mpr fun hd => hnew ((hfinished d.name).mp hd)
    have hvisit : visit shapes { finished := before.reverse } d =
        { finished := (before ++ [d]).reverse } := by
      rw [visit_of_finished h rfl hd hunfinished hdeps, List.reverse_append]
      rfl
    have hreached := (h.visit rfl hd).1
    rw [hvisit] at hreached
    rw [List.foldl_cons, hvisit]
    exact ih (by rw [hsplit, List.append_assoc, List.singleton_append]) hreached

end Traversal

/-! ## The whole order -/

namespace Shapes

variable {shapes : Shapes}

theorem IsOrdered.emission_eq (ho : shapes.IsOrdered) (hn : shapes.names.Nodup) :
    shapes.emission = ⟨shapes.declarations, []⟩ := by
  have hall := Traversal.visitAll_of_isOrdered hn ho (List.nil_append _).symm .start
  rw [List.reverse_nil] at hall
  rw [emission, hall, List.reverse_reverse]
  rfl

/-- An order in which whatever is referred to comes first leaves no room for a cycle. -/
theorem isAcyclic_of_precedes {order : List Text} (hn : order.Nodup)
    (h : ∀ source target, shapes.Refers source target → Precedes order target source) :
    shapes.IsAcyclic := by
  intro name hcycle
  have hback : ∀ {source target : Text}, Relation.TransGen shapes.Refers source target →
      Precedes order target source := by
    intro source target hpath
    induction hpath with
    | single hrefers => exact h _ _ hrefers
    | tail _ hrefers ih => exact (h _ _ hrefers).trans hn ih
  exact Precedes.irrefl hn name (hback hcycle)

theorem perm_names_emission (hn : shapes.names.Nodup) :
    (shapes.emission.declarations.map (·.name)).Perm shapes.names :=
  (Traversal.perm_emission hn).map _

theorem declarations_restored (hn : shapes.names.Nodup) :
    (ofDeclarations shapes.emission.declarations).declarations = shapes.emission.declarations :=
  declarations_ofDeclarations ((perm_names_emission hn).nodup_iff.mpr hn)

theorem IsAcyclic.isOrdered_emission (ha : shapes.IsAcyclic) (hn : shapes.names.Nodup) :
    (ofDeclarations shapes.emission.declarations).IsOrdered := by
  intro source target ⟨hedge, htarget⟩
  rw [names, declarations_restored hn] at htarget ⊢
  rw [declarations_restored hn] at hedge
  obtain ⟨d, hd, hreference⟩ := mem_edgesOf.mp hedge
  have hrefers : shapes.Refers source target :=
    ⟨mem_edgesOf.mpr ⟨d, (Traversal.perm_emission hn).mem_iff.mp hd, hreference⟩,
      (perm_names_emission hn).mem_iff.mp htarget⟩
  exact (mem_skipped_or_precedes hn hrefers).resolve_left fun hskipped =>
    ha.not_onCycle source target (onCycle_of_mem_skipped hskipped)

/-- **What is in order stays as it is.** A store in which each declaration stands after all stored ones
to which it refers is emitted in the order in which it was filled, and no reference is skipped. So to
store anew what was emitted without cycles, and to emit it again, gives the same order. -/
theorem emission_fixpoint (hn : shapes.names.Nodup) :
    (shapes.IsOrdered → shapes.emission = ⟨shapes.declarations, []⟩) ∧
    (shapes.IsAcyclic → (ofDeclarations shapes.emission.declarations).emission =
      ⟨shapes.emission.declarations, []⟩) := by
  refine ⟨fun ho => ho.emission_eq hn, fun ha => ?_⟩
  have hemitted : (ofDeclarations shapes.emission.declarations).names.Nodup := by
    rw [names, declarations_restored hn]
    exact (perm_names_emission hn).nodup_iff.mpr hn
  rw [(ha.isOrdered_emission hn).emission_eq hemitted, declarations_restored hn]

/-- A store in which `a` refers to `b`, which is stored after it, both of them to `c`, which is stored
last, and `c` to a name that is not stored. -/
def ladder : Shapes :=
  let a : Text := [.scalar 'a']
  let b : Text := [.scalar 'b']
  let c : Text := [.scalar 'c']
  ofDeclarations [⟨a, [], [b, c]⟩, ⟨b, [], [c]⟩, ⟨c, [], [[.scalar 'd']]⟩]

theorem emission_fixpoint_ladder :
    let emitted := ladder.emission.declarations
    (ladder.names.Nodup ∧ ladder.IsAcyclic ∧
      (ofDeclarations emitted).emission = ⟨emitted, []⟩) ∧
    (ofDeclarations emitted).names.Nodup ∧ (ofDeclarations emitted).IsOrdered ∧
      (ofDeclarations emitted).emission = ⟨(ofDeclarations emitted).declarations, []⟩ ∧
        emitted.map (·.name) = [[.scalar 'c'], [.scalar 'b'], [.scalar 'a']] := by
  intro emitted
  have hn : ladder.names.Nodup := by decide
  have hedges : ∀ e ∈ edgesOf ladder.declarations, e.2 ∈ ladder.names →
      [e.2, e.1].Sublist (emitted.map (·.name)) := by decide
  have horder : ∀ source target, ladder.Refers source target →
      Precedes (emitted.map (·.name)) target source :=
    fun source target hrefers => hedges (source, target) hrefers.1 hrefers.2
  have ha : ladder.IsAcyclic := isAcyclic_of_precedes (by decide) horder
  have hemitted : (ofDeclarations emitted).names.Nodup := by decide
  have ho := ha.isOrdered_emission hn
  exact ⟨⟨hn, ha, (emission_fixpoint hn).2 ha⟩, hemitted, ho, (emission_fixpoint hemitted).1 ho,
    by decide⟩

end Shapes

end SampleTypes
