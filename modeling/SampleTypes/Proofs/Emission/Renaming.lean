import SampleTypes.Proofs.Emission.Traversal

/-!
# Names do not matter to the order

The traversal does nothing with names but compare them. So two stores whose declarations correspond
one to one, names and dependencies alike, are traversed in step: whatever is open, finished or
skipped in the one state corresponds to what is in the other (`Traversal.Matches`). **Emission gives
corresponding declarations in corresponding order** (`Shapes.emission_matches`).

What corresponds is left open here: `alike` is any one-to-one relation of names, and `same` any
relation of declarations which entails it for their names and dependencies.
-/

set_option autoImplicit false

namespace SampleTypes

/-- Declarations that are the same up to names, and names that take each other's place. -/
structure IsRenaming (alike : Text → Text → Prop) (same : Declaration → Declaration → Prop) :
    Prop where
  unique : Relator.BiUnique alike
  name : ∀ {d d' : Declaration}, same d d' → alike d.name d'.name
  dependencies : ∀ {d d' : Declaration}, same d d' →
    List.Forall₂ alike d.dependencies d'.dependencies

variable {alike : Text → Text → Prop} {same : Declaration → Declaration → Prop}

/-! ## Comparing names -/

namespace IsRenaming

variable (h : IsRenaming alike same) {n n' : Text} (hn : alike n n')

include h hn

theorem name_beq {d d' : Declaration} (hd : same d d') : (d.name == n) = (d'.name == n') := by
  rw [Bool.eq_iff_iff, beq_iff_eq, beq_iff_eq]
  exact Relator.rel_eq h.unique (h.name hd) hn

theorem any_name {ds ds' : List Declaration} (hds : List.Forall₂ same ds ds') :
    ds.any (·.name == n) = ds'.any (·.name == n') := by
  induction hds with
  | nil => rfl
  | cons hd _ ih => rw [List.any_cons, List.any_cons, ih, h.name_beq hn hd]

theorem find?_name {ds ds' : List Declaration} (hds : List.Forall₂ same ds ds') :
    Option.Rel same (ds.find? (·.name == n)) (ds'.find? (·.name == n')) := by
  induction hds with
  | nil => exact .none
  | @cons d d' ds ds' hd _ ih =>
    rw [List.find?_cons, List.find?_cons, ← h.name_beq hn hd]
    cases d.name == n with
    | true => exact .some hd
    | false => exact ih

end IsRenaming

/-! ## Steps -/

namespace Traversal

/-- Two frames with corresponding declarations, and as much left to look at. -/
def MatchingFrames (alike : Text → Text → Prop) (same : Declaration → Declaration → Prop)
    (frame frame' : Declaration × List Text) : Prop :=
  same frame.1 frame'.1 ∧ List.Forall₂ alike frame.2 frame'.2

/-- Two edges between corresponding names. -/
def MatchingEdges (alike : Text → Text → Prop) (e e' : Edge) : Prop :=
  alike e.1 e'.1 ∧ alike e.2 e'.2

/-- Two states in step with each other. -/
structure Matches (alike : Text → Text → Prop) (same : Declaration → Declaration → Prop)
    (t t' : Traversal) : Prop where
  frames : List.Forall₂ (MatchingFrames alike same) t.frames t'.frames
  finished : List.Forall₂ same t.finished t'.finished
  skipped : List.Forall₂ (MatchingEdges alike) t.skipped t'.skipped

namespace Matches

variable {t t' : Traversal} {n n' : Text} {d d' : Declaration}

theorem isOpen_eq (ht : Matches alike same t t') (h : IsRenaming alike same) (hn : alike n n') :
    t.isOpen n = t'.isOpen n' := by
  have hopen : List.Forall₂ same (t.frames.map (·.1)) (t'.frames.map (·.1)) := by
    rw [List.forall₂_map_left_iff, List.forall₂_map_right_iff]
    exact ht.frames.imp fun _ _ hframe => hframe.1
  have hany := h.any_name hn hopen
  rwa [List.any_map, List.any_map] at hany

theorem isFinished_eq (ht : Matches alike same t t') (h : IsRenaming alike same)
    (hn : alike n n') : t.isFinished n = t'.isFinished n' := h.any_name hn ht.finished

theorem push (ht : Matches alike same t t') (h : IsRenaming alike same) (hd : same d d') :
    Matches alike same (t.push d) (t'.push d') :=
  ⟨.cons ⟨hd, h.dependencies hd⟩ ht.frames, ht.finished, ht.skipped⟩

variable {shapes shapes' : Shapes}

/-- What a step does to the one state, a step does to the other. -/
theorem step (ht : Matches alike same t t') (h : IsRenaming alike same)
    (hs : List.Forall₂ same shapes.declarations shapes'.declarations) :
    Matches alike same (Traversal.step shapes t) (Traversal.step shapes' t') := by
  have hframes := ht.frames
  match hf : t.frames, hf' : t'.frames with
  | [], [] =>
    rw [step_of_done hf, step_of_done hf']
    exact ht
  | [], _ :: _ | _ :: _, [] =>
    rw [hf, hf'] at hframes
    exact absurd hframes (by simp)
  | (d, pending) :: outer, (d', pending') :: outer' =>
    rw [hf, hf', List.forall₂_cons] at hframes
    obtain ⟨⟨hd, hpending⟩, houter⟩ := hframes
    cases hpending with
    | nil =>
      rw [step_finish hf, step_finish hf']
      exact ⟨houter, .cons hd ht.finished, ht.skipped⟩
    | @cons n n' names names' hn hnames =>
      have hrest : List.Forall₂ (MatchingFrames alike same) ((d, names) :: outer)
          ((d', names') :: outer') := .cons ⟨hd, hnames⟩ houter
      -- What is asked about a name has one answer on both sides, so both traversals take the same case.
      have hopen := ht.isOpen_eq h hn
      have hfinished := ht.isFinished_eq h hn
      cases ho : t.isOpen n with
      | true =>
        rw [step_skip hf ho, step_skip hf' (hopen ▸ ho)]
        exact ⟨hrest, ht.finished, .cons ⟨h.name hd, hn⟩ ht.skipped⟩
      | false =>
        cases hdone : t.isFinished n with
        | true =>
          rw [step_pass hf ho hdone, step_pass hf' (hopen ▸ ho) (hfinished ▸ hdone)]
          exact ⟨hrest, ht.finished, ht.skipped⟩
        | false =>
          have hfind : Option.Rel same (shapes.find? n) (shapes'.find? n') := h.find?_name hn hs
          match hstored : shapes.find? n, hstored' : shapes'.find? n', hfind with
          | none, none, _ =>
            rw [step_miss hf ho hdone hstored,
              step_miss hf' (hopen ▸ ho) (hfinished ▸ hdone) hstored']
            exact ⟨hrest, ht.finished, ht.skipped⟩
          | some next, some next', .some hnext =>
            rw [step_enter hf ho hdone hstored,
              step_enter hf' (hopen ▸ ho) (hfinished ▸ hdone) hstored']
            exact ⟨.cons ⟨hnext, h.dependencies hnext⟩ hrest, ht.finished, ht.skipped⟩

theorem run (ht : Matches alike same t t') (h : IsRenaming alike same)
    (hs : List.Forall₂ same shapes.declarations shapes'.declarations) (n : Nat) :
    Matches alike same (Traversal.run shapes n t) (Traversal.run shapes' n t') := by
  induction n generalizing t t' with
  | zero => exact ht
  | succ n ih =>
    have hempty : t.frames.isEmpty = t'.frames.isEmpty := by
      rw [Bool.eq_iff_iff, List.isEmpty_iff_length_eq_zero, List.isEmpty_iff_length_eq_zero,
        ht.frames.length_eq]
    rw [Traversal.run, Traversal.run, ← hempty]
    split
    · exact ht
    · exact ih (ht.step h hs)

theorem visit (ht : Matches alike same t t') (h : IsRenaming alike same)
    (hs : List.Forall₂ same shapes.declarations shapes'.declarations) (hd : same d d') :
    Matches alike same (Traversal.visit shapes t d) (Traversal.visit shapes' t' d') := by
  have hcost : shapes.declarations.map cost = shapes'.declarations.map cost :=
    map_eq_map_of_forall₂ hs fun _ _ hd => congrArg (· + 1) (h.dependencies hd).length_eq
  have heffort : effort shapes = effort shapes' := by rw [effort_eq, effort_eq, hcost]
  rw [Traversal.visit, Traversal.visit, ← ht.isFinished_eq h (h.name hd), ← heffort]
  split
  · exact ht
  · exact (ht.push h hd).run h hs _

theorem visitAll (ht : Matches alike same t t') (h : IsRenaming alike same)
    (hs : List.Forall₂ same shapes.declarations shapes'.declarations) {ds ds' : List Declaration}
    (hds : List.Forall₂ same ds ds') :
    Matches alike same (ds.foldl (Traversal.visit shapes) t)
      (ds'.foldl (Traversal.visit shapes') t') := by
  induction hds generalizing t t' with
  | nil => exact ht
  | cons hd _ ih => exact ih (ht.visit h hs hd)

end Matches

end Traversal

/-- **What corresponds in two stores corresponds in the order of emission.** -/
theorem Shapes.emission_matches {shapes shapes' : Shapes} (h : IsRenaming alike same)
    (hs : List.Forall₂ same shapes.declarations shapes'.declarations) :
    List.Forall₂ same shapes.emission.declarations shapes'.emission.declarations ∧
    List.Forall₂ (Traversal.MatchingEdges alike) shapes.emission.skipped shapes'.emission.skipped := by
  have hstart : Traversal.Matches alike same {} {} := ⟨.nil, .nil, .nil⟩
  have hend := hstart.visitAll h hs hs
  exact ⟨List.rel_reverse hend.finished, List.rel_reverse hend.skipped⟩

end SampleTypes
