import SampleTypes.Emission.Recursive
import SampleTypes.Proofs.Emission.Traversal

/-!
# The traversal is the recursion

The stack of the traversal holds what a recursion would have on its own: the declarations that are being
visited, each with the dependencies it has still to look at. So the traversal, once it has begun to visit
a declaration, comes to what the recursion gives for it, with all frames around it untouched
(`Traversal.leads_visit`). The induction is on the room that is left for the recursion to go deeper, and
within it on the dependencies of one declaration; a frame that is resumed is the recursion going on after
a call. The main statement is

> **the order of emission and the recursive order are the same**, skipped references included.

There is always room enough: what is being visited is stored, and each once.
-/

set_option autoImplicit false

namespace SampleTypes

/-- What the recursion does about one dependency of a declaration. -/
def Recursive.look (shapes : Shapes) (room : Nat) (path : List Text) (d : Declaration) (e : Emission)
    (name : Text) : Emission :=
  if path.contains name then { e with skipped := e.skipped ++ [(d.name, name)] }
  else if e.declarations.any (·.name == name) then e
  else
    match shapes.find? name with
    | none => e
    | some next => Recursive.visit shapes room path e next

theorem Recursive.visit_succ (shapes : Shapes) (room : Nat) (path : List Text) (e : Emission)
    (d : Declaration) : Recursive.visit shapes (room + 1) path e d =
      let looked := d.dependencies.foldl (Recursive.look shapes room (d.name :: path) d) e
      { looked with declarations := looked.declarations ++ [d] } := rfl

namespace Traversal

variable {shapes : Shapes} {t t' t'' : Traversal} {d : Declaration}

/-! ## States -/

/-- What was emitted and skipped so far. -/
def emitted (t : Traversal) : Emission := ⟨t.finished.reverse, t.skipped.reverse⟩

/-- The state in which so much was emitted and skipped, with these frames. -/
def resumed (frames : List (Declaration × List Text)) (e : Emission) : Traversal :=
  ⟨frames, e.declarations.reverse, e.skipped.reverse⟩

/-- The names of what is being visited, the innermost first. -/
def path (t : Traversal) : List Text := t.frames.map (·.1.name)

@[simp]
theorem emitted_resumed (frames : List (Declaration × List Text)) (e : Emission) :
    (resumed frames e).emitted = e := by
  simp [emitted, resumed]

@[simp]
theorem resumed_emitted (t : Traversal) : resumed t.frames t.emitted = t := by
  simp [emitted, resumed]

theorem contains_path (t : Traversal) (name : Text) : t.path.contains name = t.isOpen name := by
  rw [Bool.eq_iff_iff]
  simp [path, isOpen]

theorem any_emitted (t : Traversal) (name : Text) :
    t.emitted.declarations.any (·.name == name) = t.isFinished name := by
  simp [emitted, isFinished]

/-! ## Runs -/

theorem Coherent.leads (hc : Coherent shapes t) (h : Leads (step shapes) t t') :
    Coherent shapes t' :=
  h.keeps (fun _ hs => hs.after_step) hc

theorem Coherent.length_frames_le (h : Coherent shapes t) : t.frames.length ≤ shapes.size := by
  have hsequence := (List.subperm_of_subset (h.once.of_map _) h.stored).length_le
  rw [sequence, List.length_append, List.length_map] at hsequence
  exact Nat.le_trans (Nat.le_add_left _ _) hsequence

/-- To go on to the next dependency before looking at it keeps a state coherent. -/
theorem Coherent.advance (h : Coherent shapes t) {name : Text} {names : List Text}
    {outer : List (Declaration × List Text)} (hf : t.frames = (d, name :: names) :: outer) :
    Coherent shapes { t with frames := (d, names) :: outer } := by
  have hseq : ({ t with frames := (d, names) :: outer } : Traversal).sequence = t.sequence := by
    simp [sequence, hf]
  have hahead := h.ahead
  rw [hf] at hahead
  obtain ⟨hfirst, houter⟩ := List.forall_mem_cons.mp hahead
  exact ⟨hseq ▸ h.stored, by rw [Traversal.names, hseq]; exact h.once,
    List.forall_mem_cons.mpr ⟨(List.suffix_cons name names).trans hfirst, houter⟩⟩

/-! ## One declaration -/

/-- Every declaration that is begun comes to what the recursion gives for it, if there is so much room. -/
def Visits (shapes : Shapes) (room : Nat) : Prop :=
  ∀ (t : Traversal) (d : Declaration), Coherent shapes t → d ∈ shapes.declarations →
    d.name ∉ t.names → shapes.size ≤ room + t.frames.length →
      Leads (step shapes) (t.push d) (resumed t.frames (Recursive.visit shapes room t.path t.emitted d))

/-- The dependencies of the innermost declaration are looked at as the recursion looks at them. -/
theorem leads_looks {room : Nat} (hvisits : Visits shapes room) {names : List Text}
    {outer : List (Declaration × List Text)} (hc : Coherent shapes t)
    (hf : t.frames = (d, names) :: outer) (hroom : shapes.size ≤ room + t.frames.length) :
    Leads (step shapes) t
      (resumed ((d, []) :: outer) (names.foldl (Recursive.look shapes room t.path d) t.emitted)) := by
  -- On the dependencies that are left: each is looked at once by a step, and once by the recursion.
  induction names generalizing t with
  | nil =>
    rw [List.foldl_nil, ← hf, resumed_emitted]
    exact .refl t
  | cons name names ih =>
    -- What is left to show for a state in which the dependency was looked at.
    have hrest : ∀ t', Coherent shapes t' → t'.frames = (d, names) :: outer →
        t'.emitted = Recursive.look shapes room t.path d t.emitted name →
        Leads (step shapes) t' (resumed ((d, []) :: outer)
          ((name :: names).foldl (Recursive.look shapes room t.path d) t.emitted)) := by
      intro t' hc' hf' hemitted
      have hpath : t'.path = t.path := by rw [path, path, hf, hf']; rfl
      have hlength : t'.frames.length = t.frames.length := by rw [hf, hf']; rfl
      rw [List.foldl_cons, ← hemitted, ← hpath]
      exact ih hc' hf' (hlength ▸ hroom)
    have hnext := hc.after_step
    cases ho : t.isOpen name with
    | true =>
      rw [step_skip hf ho] at hnext
      refine .of_step (step_skip hf ho) (hrest _ hnext rfl ?_)
      rw [Recursive.look, if_pos (by rw [contains_path, ho])]
      simp [emitted]
    | false =>
      cases hd : t.isFinished name with
      | true =>
        rw [step_pass hf ho hd] at hnext
        refine .of_step (step_pass hf ho hd) (hrest _ hnext rfl ?_)
        rw [Recursive.look, contains_path, any_emitted, ho, hd]
        rfl
      | false =>
        cases hn : shapes.find? name with
        | none =>
          rw [step_miss hf ho hd hn] at hnext
          refine .of_step (step_miss hf ho hd hn) (hrest _ hnext rfl ?_)
          rw [Recursive.look, contains_path, any_emitted, ho, hd, hn]
          rfl
        | some next =>
          -- The call: the frame waits while the new declaration is visited, and is then resumed.
          obtain ⟨hstored, rfl⟩ := Shapes.mem_of_find? hn
          have hwaiting := hc.advance hf
          have hnew : next.name ∉ ({ t with frames := (d, names) :: outer } : Traversal).names := by
            have hout : next.name ∉ t.names := by simp [mem_names_iff, ho, hd]
            simpa [Traversal.names, sequence, hf] using hout
          have hcall := hvisits _ next hwaiting hstored hnew (by simpa [hf] using hroom)
          rw [step_enter hf ho hd hn] at hnext
          refine .of_step (step_enter hf ho hd hn)
            (hcall.trans (hrest _ (hnext.leads hcall) rfl ?_))
          rw [Recursive.look, contains_path, any_emitted, ho, hd, hn, emitted_resumed]
          simp [path, emitted, hf]

/-- **A declaration that is begun comes to what the recursion gives for it**, when the room for the
recursion and what is being visited are together as much as is stored. -/
theorem leads_visit (room : Nat) : Visits shapes room := by
  induction room with
  | zero =>
    intro t d hc hd hn hroom
    -- There is no room left only when everything that is stored is being visited.
    have hpushed : t.frames.length + 1 ≤ shapes.size := (hc.push hd hn).length_frames_le
    omega
  | succ room ih =>
    intro t d hc hd hn hroom
    have hlooks : Leads (step shapes) (t.push d) (resumed ((d, []) :: t.frames)
        (d.dependencies.foldl (Recursive.look shapes room (d.name :: t.path) d) t.emitted)) :=
      leads_looks ih (hc.push hd hn) rfl (by simp only [push, List.length_cons]; omega)
    refine hlooks.trans (.of_step (step_finish rfl) ?_)
    rw [Recursive.visit_succ]
    simpa [resumed] using Leads.refl _

/-! ## The whole order -/

/-- A visit from outside finishes what it begins, so it comes to what the recursion gives. -/
theorem visit_eq_resumed (h : Reached shapes t) (hf : t.frames = []) (hd : d ∈ shapes.declarations)
    (hn : t.isFinished d.name = false) (extra : Nat) :
    visit shapes t d =
      resumed [] (Recursive.visit shapes (shapes.size + extra) [] t.emitted d) := by
  have hrecursive := leads_visit (shapes.size + extra) t d h.coherent hd
    (notMem_names_of_done hf hn) (by omega)
  have hpath : t.path = [] := by simp [path, hf]
  rw [hf, hpath] at hrecursive
  exact h.visit_eq_of_leads hf hd hn hrecursive rfl

theorem emitted_visitAll (extra : Nat) (ds : List Declaration) (h : Reached shapes t)
    (hf : t.frames = []) (hds : ∀ d ∈ ds, d ∈ shapes.declarations) :
    (ds.foldl (visit shapes) t).emitted = ds.foldl (fun e d =>
      if e.declarations.any (·.name == d.name) then e
      else Recursive.visit shapes (shapes.size + extra) [] e d) t.emitted := by
  induction ds generalizing t with
  | nil => rfl
  | cons d ds ih =>
    have hstored := hds d List.mem_cons_self
    obtain ⟨hreached, hdone, -, -⟩ := h.visit hf hstored
    rw [List.foldl_cons, List.foldl_cons, any_emitted,
      ih hreached hdone fun e he => hds e (List.mem_cons_of_mem _ he)]
    cases hn : t.isFinished d.name with
    | true => rw [visit, if_pos hn, if_pos rfl]
    | false => rw [visit_eq_resumed h hf hstored hn extra, emitted_resumed, if_neg Bool.false_ne_true]

end Traversal

/-- **The traversal with a stack emits what the recursion emits**: the same declarations in the same
order, and the same skipped references in theirs. The recursion has room enough: with any more of it, it
gives the same. -/
theorem Shapes.emission_eq_recursive (shapes : Shapes) :
    shapes.emission = Recursive.emission shapes ∧
      ∀ extra, Recursive.emission shapes = shapes.declarations.foldl (fun e d =>
        if e.declarations.any (·.name == d.name) then e
        else Recursive.visit shapes (shapes.size + extra) [] e d) ⟨[], []⟩ := by
  have hstart : Traversal.Reached shapes {} := .start
  have hall (extra : Nat) :=
    Traversal.emitted_visitAll extra shapes.declarations hstart rfl fun _ hd => hd
  have hrecursive : shapes.emission = Recursive.emission shapes := hall 0
  exact ⟨hrecursive, fun extra => hrecursive ▸ hall extra⟩

end SampleTypes
