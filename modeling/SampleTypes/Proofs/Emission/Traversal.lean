import Mathlib.Algebra.GroupWithZero.Nat
import Mathlib.Algebra.Order.BigOperators.Group.List
import Mathlib.Algebra.Order.Group.Nat
import Mathlib.Data.List.Perm.Subperm
import Mathlib.Logic.Function.Iterate
import SampleTypes.Emission.Order
import SampleTypes.Proofs.Runs
import SampleTypes.Proofs.Shapes.Store

/-!
# The traversal, step by step

`Traversal.step` has five outcomes, and `Traversal.Move` names them; everything below, and every
other invariant of the traversal, is a case split on it and never unfolds `step` again.

The one list to look at is `Traversal.sequence`: the finished declarations in order, and after them
the open ones from the innermost to the outermost. **It is the order in which they will finish.** A
declaration enters it between the two parts, and finishing one changes nothing. At the end it is the
order of emission.

`Coherent` is what holds of every state: the sequence holds stored declarations, each once. As each
of them pays for the steps it will take when it enters, `effort` steps are enough (`frames_run`).
-/

set_option autoImplicit false

namespace SampleTypes

namespace Traversal

/-! ## One step -/

/-- What a step can come to. -/
inductive Move (shapes : Shapes) (t : Traversal) : Traversal → Prop
  /-- The innermost declaration has no dependencies left. -/
  | finish {d : Declaration} {outer : List (Declaration × List Text)}
      (frames : t.frames = (d, []) :: outer) :
      Move shapes t { t with frames := outer, finished := d :: t.finished }
  /-- The next dependency is being visited itself. -/
  | skip {d : Declaration} {name : Text} {names : List Text}
      {outer : List (Declaration × List Text)}
      (frames : t.frames = (d, name :: names) :: outer) (isOpen : t.isOpen name = true) :
      Move shapes t
        { t with frames := (d, names) :: outer, skipped := (d.name, name) :: t.skipped }
  /-- The next dependency is finished. -/
  | pass {d : Declaration} {name : Text} {names : List Text}
      {outer : List (Declaration × List Text)}
      (frames : t.frames = (d, name :: names) :: outer) (isFinished : t.isFinished name = true) :
      Move shapes t { t with frames := (d, names) :: outer }
  /-- No declaration has the name of the next dependency. -/
  | miss {d : Declaration} {name : Text} {names : List Text}
      {outer : List (Declaration × List Text)}
      (frames : t.frames = (d, name :: names) :: outer) (missing : shapes.find? name = none) :
      Move shapes t { t with frames := (d, names) :: outer }
  /-- The next dependency is new, and its declaration becomes the innermost one. -/
  | enter {d next : Declaration} {name : Text} {names : List Text}
      {outer : List (Declaration × List Text)}
      (frames : t.frames = (d, name :: names) :: outer) (closed : t.isOpen name = false)
      (unfinished : t.isFinished name = false) (found : shapes.find? name = some next) :
      Move shapes t { t with frames := (next, next.dependencies) :: (d, names) :: outer }

theorem step_of_done {shapes : Shapes} {t : Traversal} (h : t.frames = []) : step shapes t = t := by
  rw [step, h]

theorem step_finish {shapes : Shapes} {t : Traversal} {d : Declaration}
    {outer : List (Declaration × List Text)} (hf : t.frames = (d, []) :: outer) :
    step shapes t = { t with frames := outer, finished := d :: t.finished } := by
  rw [step, hf]

theorem step_skip {shapes : Shapes} {t : Traversal} {d : Declaration} {name : Text}
    {names : List Text} {outer : List (Declaration × List Text)}
    (hf : t.frames = (d, name :: names) :: outer) (ho : t.isOpen name = true) :
    step shapes t =
      { t with frames := (d, names) :: outer, skipped := (d.name, name) :: t.skipped } := by
  rw [step, hf]
  exact if_pos ho

theorem step_pass {shapes : Shapes} {t : Traversal} {d : Declaration} {name : Text}
    {names : List Text} {outer : List (Declaration × List Text)}
    (hf : t.frames = (d, name :: names) :: outer) (ho : t.isOpen name = false)
    (hd : t.isFinished name = true) :
    step shapes t = { t with frames := (d, names) :: outer } := by
  rw [step, hf]
  simp only [ho, hd, if_true, if_false, Bool.false_eq_true]

theorem step_miss {shapes : Shapes} {t : Traversal} {d : Declaration} {name : Text}
    {names : List Text} {outer : List (Declaration × List Text)}
    (hf : t.frames = (d, name :: names) :: outer) (ho : t.isOpen name = false)
    (hd : t.isFinished name = false) (hn : shapes.find? name = none) :
    step shapes t = { t with frames := (d, names) :: outer } := by
  rw [step, hf]
  simp only [ho, hd, hn, if_false, Bool.false_eq_true]

theorem step_enter {shapes : Shapes} {t : Traversal} {d next : Declaration} {name : Text}
    {names : List Text} {outer : List (Declaration × List Text)}
    (hf : t.frames = (d, name :: names) :: outer) (ho : t.isOpen name = false)
    (hd : t.isFinished name = false) (hn : shapes.find? name = some next) :
    step shapes t =
      { t with frames := (next, next.dependencies) :: (d, names) :: outer } := by
  rw [step, hf]
  simp only [ho, hd, hn, if_false, Bool.false_eq_true]
  rfl

theorem move_step {shapes : Shapes} {t : Traversal} (h : t.frames ≠ []) :
    Move shapes t (step shapes t) := by
  match hf : t.frames with
  | [] => exact absurd hf h
  | (d, []) :: outer =>
    rw [step_finish hf]
    exact .finish hf
  | (d, name :: names) :: outer =>
    cases ho : t.isOpen name with
    | true =>
      rw [step_skip hf ho]
      exact .skip hf ho
    | false =>
      cases hd : t.isFinished name with
      | true =>
        rw [step_pass hf ho hd]
        exact .pass hf hd
      | false =>
        cases hn : shapes.find? name with
        | none =>
          rw [step_miss hf ho hd hn]
          exact .miss hf hn
        | some next =>
          rw [step_enter hf ho hd hn]
          exact .enter hf ho hd hn

/-- A run is so many steps: where no declaration is being visited, a step changes nothing. -/
theorem run_eq_iterate (shapes : Shapes) (n : Nat) (t : Traversal) :
    run shapes n t = (step shapes)^[n] t := by
  induction n generalizing t with
  | zero => rfl
  | succ n ih =>
    rw [run, Function.iterate_succ_apply]
    split
    · rename_i h
      have hd : step shapes t = t := step_of_done (List.isEmpty_iff.mp h)
      rw [hd, Function.iterate_fixed hd]
    · exact ih _

/-- Two runs from one state that leave nothing open come to the same. -/
theorem iterate_eq_of_done {shapes : Shapes} {t : Traversal} {m n : Nat}
    (hm : ((step shapes)^[m] t).frames = []) (hn : ((step shapes)^[n] t).frames = []) :
    (step shapes)^[m] t = (step shapes)^[n] t := by
  have hleads : Leads (step shapes) t ((step shapes)^[m] t) := ⟨m, rfl⟩
  exact hleads.eq_of_fixed ⟨n, rfl⟩ (step_of_done hm) (step_of_done hn)

/-! ## The states through which the order goes -/

/-- The states that the traversal of a store passes through: declarations are begun from outside
while none is being visited, and otherwise it steps. -/
inductive Reached (shapes : Shapes) : Traversal → Prop
  | start : Reached shapes {}
  | push {t : Traversal} {d : Declaration} (ht : Reached shapes t) (done : t.frames = [])
      (stored : d ∈ shapes.declarations) (unfinished : t.isFinished d.name = false) :
      Reached shapes (t.push d)
  | step {t : Traversal} (ht : Reached shapes t) : Reached shapes (step shapes t)

theorem Reached.run {shapes : Shapes} {t : Traversal} (h : Reached shapes t) (n : Nat) :
    Reached shapes (run shapes n t) := by
  induction n generalizing t with
  | zero => exact h
  | succ n ih =>
    rw [Traversal.run]
    split
    · exact h
    · exact ih h.step

/-- To prove something of all states that are reached, it is enough to follow the moves: a step from
where nothing is being visited changes nothing. -/
theorem Reached.move_induction {shapes : Shapes} {motive : ∀ t, Reached shapes t → Prop}
    (start : motive {} .start)
    (push : ∀ {t : Traversal} {d : Declaration} (ht : Reached shapes t) (done : t.frames = [])
      (stored : d ∈ shapes.declarations) (unfinished : t.isFinished d.name = false),
        motive t ht → motive (t.push d) (.push ht done stored unfinished))
    (move : ∀ {t t' : Traversal} (ht : Reached shapes t) (ht' : Reached shapes t'),
      Move shapes t t' → motive t ht → motive t' ht')
    {t : Traversal} (h : Reached shapes t) : motive t h := by
  induction h with
  | start => exact start
  | push ht done stored unfinished ih => exact push ht done stored unfinished ih
  | @step t ht ih =>
    by_cases hf : t.frames = []
    · have hsame : ∀ t', t' = t → ∀ ht', motive t' ht' := fun _ he _ => he ▸ ih
      exact hsame _ (step_of_done hf) _
    · exact move ht _ (move_step hf) ih

/-! ## The sequence -/

/-- The declarations that were begun, in the order in which they finish. -/
def sequence (t : Traversal) : List Declaration := t.finished.reverse ++ t.frames.map (·.1)

/-- The names of the sequence. -/
def names (t : Traversal) : List Text := t.sequence.map (·.name)

theorem mem_names_iff {t : Traversal} {name : Text} :
    name ∈ t.names ↔ t.isFinished name = true ∨ t.isOpen name = true := by
  simp [names, sequence, isFinished, isOpen]

theorem sequence_of_done {t : Traversal} (h : t.frames = []) :
    t.sequence = t.finished.reverse := by
  simp [sequence, h]

/-- A new declaration enters the sequence between the finished and the open ones. -/
theorem sequence_push (t : Traversal) (d : Declaration) :
    (t.push d).sequence = t.finished.reverse ++ d :: t.frames.map (·.1) := rfl

theorem mem_sequence_push {t : Traversal} {d e : Declaration} :
    e ∈ (t.push d).sequence ↔ e = d ∨ e ∈ t.sequence := by
  rw [sequence_push, sequence, List.mem_append, List.mem_append, List.mem_cons]
  exact or_left_comm

/-- A step keeps the sequence, or lets one declaration enter it. -/
theorem Move.sequence_cases {shapes : Shapes} {t t' : Traversal} (h : Move shapes t t') :
    t'.sequence = t.sequence ∨ ∃ next ∈ shapes.declarations, next.name ∉ t.names ∧
      t'.sequence = t.finished.reverse ++ next :: t.frames.map (·.1) := by
  cases h with
  | finish hf => exact Or.inl (by simp [sequence, hf])
  | skip hf _ => exact Or.inl (by simp [sequence, hf])
  | pass hf _ => exact Or.inl (by simp [sequence, hf])
  | miss hf _ => exact Or.inl (by simp [sequence, hf])
  | enter hf ho hd hn =>
    obtain ⟨hmem, rfl⟩ := Shapes.mem_of_find? hn
    exact Or.inr ⟨_, hmem, by simp [mem_names_iff, ho, hd], by simp [sequence, hf]⟩

/-- What was begun stays begun, and stays in its order. -/
theorem Move.sequence_sublist {shapes : Shapes} {t t' : Traversal} (h : Move shapes t t') :
    t.sequence.Sublist t'.sequence := by
  rcases h.sequence_cases with hs | ⟨next, _, _, hs⟩
  · rw [hs]
  · rw [hs]
    exact (List.Sublist.refl _).append (List.sublist_cons_self _ _)

/-- What was begun first finishes last. -/
theorem Move.getLast?_sequence {shapes : Shapes} {t t' : Traversal} (h : Move shapes t t')
    (hf : t.frames ≠ []) : t'.sequence.getLast? = t.sequence.getLast? := by
  rcases h.sequence_cases with hs | ⟨next, _, _, hs⟩
  · rw [hs]
  · have hopen : t.frames.map (·.1) ≠ [] := by simpa using hf
    rw [hs, sequence, List.getLast?_append_of_ne_nil _ hopen,
      List.getLast?_append_of_ne_nil _ (List.cons_ne_nil _ _), List.getLast?_cons_of_ne_nil hopen]

theorem getLast?_sequence_iterate (shapes : Shapes) (n : Nat) (t : Traversal) :
    ((step shapes)^[n] t).sequence.getLast? = t.sequence.getLast? := by
  induction n generalizing t with
  | zero => rfl
  | succ n ih =>
    rw [Function.iterate_succ_apply, ih]
    by_cases hf : t.frames = []
    · rw [step_of_done hf]
    · exact (move_step hf).getLast?_sequence hf

theorem sequence_sublist_run (shapes : Shapes) (n : Nat) (t : Traversal) :
    t.sequence.Sublist (run shapes n t).sequence := by
  induction n generalizing t with
  | zero => exact List.Sublist.refl _
  | succ n ih =>
    rw [run]
    split
    · exact List.Sublist.refl _
    · rename_i h
      exact (move_step (by simpa using h)).sequence_sublist.trans (ih _)

/-! ## What holds of every state -/

/-- What every state of the traversal keeps to. -/
structure Coherent (shapes : Shapes) (t : Traversal) : Prop where
  /-- What is visited or finished is stored. -/
  stored : ∀ d ∈ t.sequence, d ∈ shapes.declarations
  /-- Nothing is begun twice. -/
  once : t.names.Nodup
  /-- What a declaration has still to look at are its last dependencies. -/
  ahead : ∀ frame ∈ t.frames, frame.2 <:+ frame.1.dependencies

/-- A declaration that enters the sequence keeps it coherent. -/
theorem nodup_names_enter {t : Traversal} {d : Declaration} (hn : t.names.Nodup)
    (hd : d.name ∉ t.names) :
    ((t.finished.reverse ++ d :: t.frames.map (·.1)).map (·.name)).Nodup := by
  rw [List.map_append, List.map_cons, List.nodup_middle, ← List.map_append]
  exact List.nodup_cons.mpr ⟨hd, hn⟩

theorem Coherent.push {shapes : Shapes} {t : Traversal} {d : Declaration} (h : Coherent shapes t)
    (hd : d ∈ shapes.declarations) (hn : d.name ∉ t.names) : Coherent shapes (t.push d) where
  stored e he := by
    rcases mem_sequence_push.mp he with rfl | he
    · exact hd
    · exact h.stored e he
  once := nodup_names_enter h.once hn
  ahead frame hf := by
    rcases List.mem_cons.mp hf with rfl | hf
    · exact List.suffix_refl _
    · exact h.ahead frame hf

theorem Coherent.move {shapes : Shapes} {t t' : Traversal} (h : Coherent shapes t)
    (hm : Move shapes t t') : Coherent shapes t' where
  stored d hd := by
    rcases hm.sequence_cases with hs | ⟨next, hnext, _, hs⟩
    · exact h.stored d (hs ▸ hd)
    · rw [hs, List.mem_append, List.mem_cons] at hd
      rcases hd with hd | rfl | hd
      · exact h.stored d (List.mem_append_left _ hd)
      · exact hnext
      · exact h.stored d (List.mem_append_right _ hd)
  once := by
    rcases hm.sequence_cases with hs | ⟨next, _, hn, hs⟩
    · rw [names, hs]
      exact h.once
    · rw [names, hs]
      exact nodup_names_enter h.once hn
  ahead := by
    -- A frame of the new state is an old one, an old one with less ahead of it, or new.
    have hahead := h.ahead
    have htail : ∀ {d : Declaration} {name : Text} {names : List Text}
        {outer : List (Declaration × List Text)}, t.frames = (d, name :: names) :: outer →
        ∀ frame ∈ (d, names) :: outer, frame.2 <:+ frame.1.dependencies := by
      intro d name names outer hf frame hmem
      rw [hf] at hahead
      rcases List.mem_cons.mp hmem with rfl | hmem
      · exact (List.suffix_cons name names).trans (hahead _ List.mem_cons_self)
      · exact hahead _ (List.mem_cons_of_mem _ hmem)
    cases hm with
    | finish hf => exact fun frame hmem => hahead frame (hf ▸ List.mem_cons_of_mem _ hmem)
    | skip hf _ => exact htail hf
    | pass hf _ => exact htail hf
    | miss hf _ => exact htail hf
    | enter hf _ _ _ =>
      intro frame hmem
      rcases List.mem_cons.mp hmem with rfl | hmem
      · exact List.suffix_refl _
      · exact htail hf frame hmem

theorem Coherent.after_step {shapes : Shapes} {t : Traversal} (h : Coherent shapes t) :
    Coherent shapes (step shapes t) := by
  by_cases hf : t.frames = []
  · rwa [step_of_done hf]
  · exact h.move (move_step hf)

theorem notMem_names_of_done {t : Traversal} {name : Text} (hd : t.frames = [])
    (hn : t.isFinished name = false) : name ∉ t.names := by
  simp [mem_names_iff, hn, isOpen, hd]

theorem Reached.coherent {shapes : Shapes} {t : Traversal} (h : Reached shapes t) :
    Coherent shapes t := by
  induction h with
  | start => exact ⟨by simp [sequence], by simp [names, sequence], by simp⟩
  | push _ hd hs hn ih => exact ih.push hs (notMem_names_of_done hd hn)
  | step _ ih => exact ih.after_step

/-! ## The effort is enough

A declaration that is begun will be looked at once for each of its dependencies and once more to be
finished. `begun` adds this up for all that was begun and `left` for what is still open; with every
step, `left` falls behind `begun` by one more. -/

/-- The steps that a declaration takes. -/
def cost (d : Declaration) : Nat := d.dependencies.length + 1

/-- The steps that everything begun takes. -/
def begun (t : Traversal) : Nat := (t.sequence.map cost).sum

/-- The steps that the open declarations have still to take. -/
def left (t : Traversal) : Nat := (t.frames.map fun frame => frame.2.length + 1).sum

theorem effort_eq (shapes : Shapes) : effort shapes = (shapes.declarations.map cost).sum := by
  rw [effort]
  induction shapes.declarations with
  | nil => rfl
  | cons d ds ih => simp only [List.foldr_cons, List.map_cons, List.sum_cons, ih, cost]

theorem Coherent.begun_le_effort {shapes : Shapes} {t : Traversal} (h : Coherent shapes t) :
    t.begun ≤ effort shapes := by
  obtain ⟨ds, hp, hs⟩ := List.subperm_of_subset (h.once.of_map _) h.stored
  calc t.begun = (ds.map cost).sum := ((hp.map cost).sum_eq).symm
    _ ≤ (shapes.declarations.map cost).sum := (hs.map cost).sum_le_sum (by simp)
    _ = effort shapes := (effort_eq shapes).symm

theorem Coherent.left_le_begun {shapes : Shapes} {t : Traversal} (h : Coherent shapes t) :
    t.left ≤ t.begun := by
  have hframes : t.left ≤ (t.frames.map fun frame => cost frame.1).sum :=
    List.sum_le_sum fun frame hf => Nat.succ_le_succ (h.ahead frame hf).length_le
  simp only [begun, sequence, List.map_append, List.map_map, List.sum_append, Function.comp_def]
  omega

/-- Each step spends exactly one of what is left. -/
theorem Move.balance {shapes : Shapes} {t t' : Traversal} (h : Move shapes t t') :
    t'.begun + t.left = t.begun + t'.left + 1 := by
  cases h with
  | finish hf => simp [begun, left, sequence, hf]; omega
  | skip hf _ => simp [begun, left, sequence, hf]; omega
  | pass hf _ => simp [begun, left, sequence, hf]; omega
  | miss hf _ => simp [begun, left, sequence, hf]; omega
  | enter hf _ _ _ => simp [begun, left, sequence, cost, hf]; omega

theorem frames_run {shapes : Shapes} (n : Nat) {t : Traversal} (h : Coherent shapes t)
    (hn : effort shapes + t.left ≤ t.begun + n) : (run shapes n t).frames = [] := by
  induction n generalizing t with
  | zero =>
    have hleft : t.left = 0 := by have := h.begun_le_effort; omega
    rw [run]
    cases hf : t.frames with
    | nil => rfl
    | cons frame outer => simp [left, hf] at hleft
  | succ n ih =>
    rw [run]
    split
    · rename_i hd
      exact List.isEmpty_iff.mp hd
    · rename_i hf
      -- With every step `left` falls behind `begun`, which is never more than the effort.
      have hm : Move shapes t (step shapes t) := move_step (by simpa using hf)
      have hb := hm.balance
      exact ih (h.move hm) (by omega)

/-! ## The whole order -/

/-- A visit ends with no declaration open, and with the one visited among the finished ones. -/
theorem Reached.visit {shapes : Shapes} {t : Traversal} {d : Declaration} (h : Reached shapes t)
    (hf : t.frames = []) (hd : d ∈ shapes.declarations) :
    Reached shapes (visit shapes t d) ∧ (visit shapes t d).frames = [] ∧
      d.name ∈ (visit shapes t d).names ∧ t.names ⊆ (visit shapes t d).names := by
  rw [Traversal.visit]
  split
  · rename_i hn
    exact ⟨h, hf, mem_names_iff.mpr (Or.inl hn), fun _ hm => hm⟩
  · rename_i hn
    have hpush : Reached shapes (t.push d) := .push h hf hd (by simpa using hn)
    have hsub := sequence_sublist_run shapes (effort shapes) (t.push d)
    refine ⟨hpush.run _, frames_run _ hpush.coherent ?_, ?_, ?_⟩
    · have := hpush.coherent.left_le_begun
      omega
    · refine List.mem_map_of_mem (hsub.subset ?_)
      simp [sequence_push]
    · refine ((List.Sublist.trans ?_ hsub).map _).subset
      rw [sequence_push]
      exact (List.Sublist.refl _).append (List.sublist_cons_self _ _)

/-- A visit that enters the declaration comes to where the steps lead when it has been pushed. -/
theorem Reached.visit_eq_of_leads {shapes : Shapes} {t t' : Traversal} {d : Declaration}
    (h : Reached shapes t) (hf : t.frames = []) (hd : d ∈ shapes.declarations)
    (hn : t.isFinished d.name = false) (hleads : Leads (Traversal.step shapes) (t.push d) t')
    (hdone : t'.frames = []) : Traversal.visit shapes t d = t' := by
  have hrun : Leads (Traversal.step shapes) (t.push d) (Traversal.visit shapes t d) := by
    rw [Traversal.visit, if_neg (by simp [hn]), run_eq_iterate]
    exact ⟨_, rfl⟩
  exact hrun.eq_of_fixed hleads (step_of_done (h.visit hf hd).2.1) (step_of_done hdone)

theorem Reached.visitAll {shapes : Shapes} (ds : List Declaration) {t : Traversal}
    (h : Reached shapes t) (hf : t.frames = []) (hds : ∀ d ∈ ds, d ∈ shapes.declarations) :
    Reached shapes (ds.foldl (Traversal.visit shapes) t) ∧
      (ds.foldl (Traversal.visit shapes) t).frames = [] ∧
      ∀ name, name ∈ t.names ∨ name ∈ ds.map (·.name) →
        name ∈ (ds.foldl (Traversal.visit shapes) t).names := by
  induction ds generalizing t with
  | nil => exact ⟨h, hf, fun name hn => by simpa using hn⟩
  | cons d ds ih =>
    obtain ⟨hv, hvf, hvd, hvs⟩ := h.visit hf (hds d List.mem_cons_self)
    obtain ⟨hr, hrf, hrn⟩ := ih hv hvf fun e he => hds e (List.mem_cons_of_mem _ he)
    refine ⟨hr, hrf, fun name hn => hrn name ?_⟩
    rw [List.map_cons, List.mem_cons] at hn
    rcases hn with hn | rfl | hn
    · exact Or.inl (hvs hn)
    · exact Or.inl hvd
    · exact Or.inr hn

/-- Nothing is visited when all is finished. -/
theorem visitAll_of_finished (shapes : Shapes) {ds : List Declaration} {t : Traversal}
    (h : ∀ d ∈ ds, t.isFinished d.name = true) : ds.foldl (visit shapes) t = t := by
  induction ds with
  | nil => rfl
  | cons d ds ih =>
    have hd : visit shapes t d = t := if_pos (h d List.mem_cons_self)
    rw [List.foldl_cons, hd]
    exact ih fun e he => h e (List.mem_cons_of_mem _ he)

/-- **The order of emission is the sequence of a state that was reached, in which nothing is open
and every stored name is finished.** -/
theorem exists_reached_emission (shapes : Shapes) :
    ∃ t, Reached shapes t ∧ t.frames = [] ∧ shapes.names ⊆ t.names ∧
      shapes.emission = ⟨t.sequence, t.skipped.reverse⟩ := by
  have hstart : Reached shapes {} := .start
  obtain ⟨hr, hf, hn⟩ := hstart.visitAll shapes.declarations rfl fun _ hd => hd
  exact ⟨_, hr, hf, fun name hm => hn name (Or.inr hm), by rw [sequence_of_done hf]; rfl⟩

/-- Emission loses no declaration and repeats none. -/
theorem perm_emission {shapes : Shapes} (hn : shapes.names.Nodup) :
    shapes.emission.declarations.Perm shapes.declarations := by
  obtain ⟨t, hr, _, hnames, he⟩ := exists_reached_emission shapes
  rw [he]
  refine (List.perm_ext_iff_of_nodup (hr.coherent.once.of_map _) (hn.of_map _)).mpr fun d => ?_
  constructor
  · exact hr.coherent.stored d
  · intro hd
    obtain ⟨e, he, hname⟩ := List.mem_map.mp (hnames (List.mem_map_of_mem hd))
    exact Shapes.eq_of_name_eq hn (hr.coherent.stored e he) hd hname ▸ he

end Traversal

end SampleTypes
