import SampleTypes.Proofs.Inference.Moves

/-!
# Which objects own a declaration

Not every object of a sample is looked at, and not every one that is looked at gets a declaration of
its own: where a name comes again, the object is taken to be of the shape that has the name, and
nothing in it is looked at. `Met` says which objects are looked at, given those that own a
declaration, and `IsOwnership` says which own one: those met that are the first of their name.

The two notions refer to each other, and that they determine each other is not obvious: they do
because what is met depends on what owns a declaration *before* it only. **There is exactly one
ownership, and the declarations that inference finds are those of its objects, in the order of the
document.**

`Survey` is the invariant. It says this of the sites that the walk has passed so far, and has one
lemma for each way to go on: past what holds no object (`Survey.pass`), past an object whose name is
taken (`Survey.reuse`), and into a new one (`Survey.own`).
-/

set_option autoImplicit false

namespace SampleTypes

/-! ## The rule -/

/-- The objects that inference looks at: the root, and what an object holds that owns a
declaration. -/
inductive Met (root : Option SampledObject) (owns : Site → Prop) : Site → Prop
  | root (h : (objectAt? root []).isSome) : Met root owns []
  | member {a : Site} {i : Nat} (holder : owns a) (h : (objectAt? root (a ++ [i])).isSome) :
      Met root owns (a ++ [i])

/-- The name synthesized for the object at a site. -/
def nameAt? (style : NamingStyle) (root : Option SampledObject) (a : Site) : Option Text :=
  (objectAt? root a).map (·.name style)

theorem nameAt?_of_some {style : NamingStyle} {root : Option SampledObject} {a : Site}
    {o : SampledObject} (h : objectAt? root a = some o) :
    nameAt? style root a = some (o.name style) := by
  rw [nameAt?, h]; rfl

/-- An object owns a declaration iff it is met and none that is met before it has its name. -/
def IsOwnership (style : NamingStyle) (root : Option SampledObject) (owns : Site → Prop) : Prop :=
  ∀ a, owns a ↔
    Met root owns a ∧ ∀ b, b < a → Met root owns b → nameAt? style root b ≠ nameAt? style root a

namespace Met

theorem isSome {root : Option SampledObject} {owns : Site → Prop} {a : Site}
    (h : Met root owns a) : (objectAt? root a).isSome := by
  cases h with
  | root h => exact h
  | member _ h => exact h

/-- What holds a member that is met owns a declaration. -/
theorem holder {root : Option SampledObject} {owns : Site → Prop} {a : Site} {i : Nat}
    (h : Met root owns (a ++ [i])) : owns a := by
  generalize hx : a ++ [i] = x at h
  cases h with
  | root _ => exact absurd hx (by simp)
  | member ho _ =>
    obtain ⟨rfl, _⟩ := List.append_inj' hx rfl
    exact ho

/-- What is met at a site depends on what owns a declaration before it. -/
theorem of_agree {root : Option SampledObject} {owns owns' : Site → Prop} {a : Site}
    (hag : ∀ b, b < a → owns b → owns' b) (h : Met root owns a) : Met root owns' a := by
  cases h with
  | root h => exact .root h
  | member ho h => exact .member (hag _ (Site.lt_snoc _ _) ho) h

theorem iff_of_agree {root : Option SampledObject} {owns owns' : Site → Prop} {a : Site}
    (hag : ∀ b, b < a → (owns b ↔ owns' b)) : Met root owns a ↔ Met root owns' a :=
  ⟨of_agree fun b hb => (hag b hb).mp, of_agree fun b hb => (hag b hb).mpr⟩

end Met

/-- What stands around an object that owns a declaration owns one as well. -/
theorem IsOwnership.of_isPrefix {style : NamingStyle} {root : Option SampledObject}
    {owns : Site → Prop} (h : IsOwnership style root owns) {a b : Site} (hab : a <+: b)
    (hb : owns b) : owns a := by
  obtain ⟨c, rfl⟩ := hab
  induction c using List.reverseRecOn with
  | nil => simpa using hb
  | append_singleton c i ih =>
    rw [← List.append_assoc] at hb
    exact ih ((h _).mp hb).1.holder

/-! ## The sites passed so far -/

/-- The rule, as far as the walk has come: `past` are the sites that it has passed, `owners` those
of them that own a declaration, and `ds` the declarations. -/
structure Survey (style : NamingStyle) (root : Option SampledObject) (ds : List Declaration)
    (past : Site → Prop) (owners : List Site) : Prop where
  sorted : owners.Pairwise (· < ·)
  behind : ∀ a ∈ owners, past a
  declared : ds.map some = owners.map fun a => (objectAt? root a).map (·.declaration style)
  met : ∀ a ∈ owners, Met root (· ∈ owners) a
  /-- Whatever was met is the owner of its name, or comes after it. -/
  covered : ∀ a, past a → Met root (· ∈ owners) a →
    ∃ b ∈ owners, (b = a ∨ b < a) ∧ nameAt? style root b = nameAt? style root a
  /-- There was no choice. -/
  decided : ∀ owns, IsOwnership style root owns → ∀ a, past a → (owns a ↔ a ∈ owners)

namespace Survey

variable {style : NamingStyle} {root : Option SampledObject} {ds : List Declaration}
  {past past' : Site → Prop} {owners : List Site}

theorem start : Survey style root [] (fun _ => False) [] where
  sorted := .nil
  behind _ h := absurd h (by simp)
  declared := rfl
  met _ h := absurd h (by simp)
  covered _ h := h.elim
  decided _ _ _ h := h.elim

theorem map_nameAt? (h : Survey style root ds past owners) :
    owners.map (nameAt? style root) = (ds.map (·.name)).map some := by
  have hd := congrArg (List.map (Option.map Declaration.name)) h.declared
  simp only [List.map_map, Function.comp_def, Option.map_some, Option.map_map] at hd
  rw [List.map_map]
  refine Eq.trans (List.map_congr_left fun a _ => ?_) hd.symm
  simp only [nameAt?, SampledObject.name_declaration]

theorem mem_names_iff (h : Survey style root ds past owners) {name : Text} :
    name ∈ ds.map (·.name) ↔ ∃ a ∈ owners, nameAt? style root a = some name := by
  rw [← List.mem_map, h.map_nameAt?]
  simp

/-- Past sites at which there is no object. -/
theorem pass (h : Survey style root ds past owners) (hpast : ∀ a, past a → past' a)
    (hnew : ∀ a, past' a → past a ∨ objectAt? root a = none) :
    Survey style root ds past' owners where
  sorted := h.sorted
  behind a ha := hpast a (h.behind a ha)
  declared := h.declared
  met := h.met
  covered a ha hm := by
    rcases hnew a ha with ha | hn
    · exact h.covered a ha hm
    · exact absurd hm.isSome (by simp [hn])
  decided owns ho a ha := by
    rcases hnew a ha with ha | hn
    · exact h.decided owns ho a ha
    · have hno : ∀ {owns : Site → Prop}, ¬ Met root owns a := fun hm =>
        absurd hm.isSome (by simp [hn])
      exact iff_of_false (fun hown => hno ((ho a).mp hown).1) fun hm => hno (h.met a hm)

/-- Past an object whose name is taken, and past everything in it. -/
theorem reuse {c : Site} {o : SampledObject}
    (h : Survey style root ds (· < c) owners) (hc : objectAt? root c = some o)
    (hname : o.name style ∈ ds.map (·.name)) :
    Survey style root ds (fun a => a < c ∨ c <+: a) owners := by
  obtain ⟨b, hb, hbn⟩ := h.mem_names_iff.mp hname
  have hbc : nameAt? style root b = nameAt? style root c := by
    rw [hbn, nameAt?_of_some hc]
  have hout : ∀ {a : Site}, c <+: a → a ∉ owners := fun hca ha =>
    Site.not_lt_of_isPrefix hca (h.behind _ ha)
  refine ⟨h.sorted, fun a ha => Or.inl (h.behind a ha), h.declared, h.met, ?_, ?_⟩
  · rintro a (ha | hca) hm
    · exact h.covered a ha hm
    · -- Nothing in the object is met, as the object owns nothing.
      have hac : a = c := by
        cases hm with
        | root _ => exact (List.prefix_nil.mp hca).symm
        | member ho _ =>
          rcases List.prefix_concat_iff.mp hca with he | hca
          · exact he.symm
          · exact absurd ho (hout hca)
      subst hac
      exact ⟨b, hb, Or.inr (h.behind b hb), hbc⟩
  · rintro owns ho a (ha | hca)
    · exact h.decided owns ho a ha
    · -- Any ownership has the owner of the name before the object, and so nothing in the object.
      refine iff_of_false (fun hown => ?_) (hout hca)
      have hcown : owns c := ho.of_isPrefix hca hown
      have hbown : owns b := (h.decided owns ho b (h.behind b hb)).mpr hb
      exact ((ho c).mp hcown).2 b (h.behind b hb) ((ho b).mp hbown).1 hbc

/-- Past a site, whatever is there, and past everything in it: no name is new. -/
theorem cross {a : Site} {j : Nat} (h : Survey style root ds (· < a ++ [j]) owners)
    (hname : ∀ o, objectAt? root (a ++ [j]) = some o → o.name style ∈ ds.map (·.name)) :
    Survey style root ds (· < a ++ [j + 1]) owners := by
  cases hc : objectAt? root (a ++ [j]) with
  | none =>
    refine h.pass (fun x hx => Site.lt_snoc_succ.mpr (Or.inl hx)) fun x hx => ?_
    rcases Site.lt_snoc_succ.mp hx with hx | hx
    · exact Or.inl hx
    · exact Or.inr (objectAt?_eq_none_of_isPrefix hx hc)
  | some o =>
    exact (h.reuse hc (hname o hc)).pass (fun x hx => Site.lt_snoc_succ.mpr hx)
      fun x hx => Or.inl (Site.lt_snoc_succ.mp hx)

/-- Into an object whose name is free. -/
theorem own {c : Site} {o : SampledObject}
    (h : Survey style root ds (· < c) owners) (hc : objectAt? root c = some o)
    (hholder : c = [] ∨ ∃ a i, c = a ++ [i] ∧ a ∈ owners)
    (hname : o.name style ∉ ds.map (·.name)) :
    Survey style root (ds ++ [o.declaration style]) (fun a => a < c ∨ a = c) (owners ++ [c]) := by
  have hmet : ∀ {owns : Site → Prop}, (∀ a ∈ owners, owns a) → Met root owns c := by
    intro owns hsub
    rcases hholder with rfl | ⟨a, i, rfl, ha⟩
    · exact .root (by simp [hc])
    · exact .member (hsub a ha) (by simp [hc])
  have hlt : ∀ {a : Site}, a < c → (a ∈ owners ++ [c] ↔ a ∈ owners) := by
    intro a ha
    have hne : a ≠ c := fun he => List.lt_irrefl c (he ▸ ha)
    simp [hne]
  -- Below the object nothing has changed.
  have hbelow : ∀ {a : Site}, a < c → (Met root (· ∈ owners ++ [c]) a ↔ Met root (· ∈ owners) a) :=
    fun ha => Met.iff_of_agree fun b hb => hlt (List.lt_trans hb ha)
  refine ⟨?_, ?_, ?_, ?_, ?_, ?_⟩
  · refine List.pairwise_append.mpr ⟨h.sorted, List.pairwise_singleton _ _, fun a ha b hb => ?_⟩
    exact List.mem_singleton.mp hb ▸ h.behind a ha
  · intro a ha
    rcases List.mem_append.mp ha with ha | ha
    · exact Or.inl (h.behind a ha)
    · exact Or.inr (List.mem_singleton.mp ha)
  · rw [List.map_append, List.map_append, h.declared]
    simp [hc]
  · intro a ha
    rcases List.mem_append.mp ha with ha | ha
    · exact (hbelow (h.behind a ha)).mpr (h.met a ha)
    · obtain rfl := List.mem_singleton.mp ha
      exact hmet fun b hb => List.mem_append_left [a] hb
  · rintro a (ha | rfl) hm
    · obtain ⟨b, hb, hle, hn⟩ := h.covered a ha ((hbelow ha).mp hm)
      exact ⟨b, List.mem_append_left _ hb, hle, hn⟩
    · exact ⟨a, by simp, Or.inl rfl, rfl⟩
  · rintro owns ho a (ha | rfl)
    · rw [hlt ha]
      exact h.decided owns ho a ha
    · -- Any ownership agrees with the owners before the object, so it meets what they meet there, and
      -- none of that has the name.
      refine iff_of_true ((ho a).mpr ⟨hmet fun b hb => ?_, fun b hb hm he => ?_⟩) (by simp)
      · exact (h.decided owns ho b (h.behind b hb)).mpr hb
      · have hm' : Met root (· ∈ owners) b :=
          hm.of_agree fun x hx => (h.decided owns ho x (List.lt_trans hx hb)).mp
        obtain ⟨x, hx, _, hxn⟩ := h.covered b hb hm'
        exact hname (h.mem_names_iff.mpr ⟨x, hx, by rw [hxn, he, nameAt?_of_some hc]⟩)

/-- Two owners of one name are the same. -/
theorem eq_of_nameAt?_eq (h : Survey style root ds past owners) (hn : (ds.map (·.name)).Nodup)
    {a b : Site} (ha : a ∈ owners) (hb : b ∈ owners)
    (he : nameAt? style root a = nameAt? style root b) : a = b := by
  have hnodup : (owners.map (nameAt? style root)).Nodup := by
    rw [h.map_nameAt?]
    exact hn.map (Option.some_injective _)
  exact List.inj_on_of_nodup_map hnodup ha hb he

/-- **When everything is passed, the owners are the one ownership there is.** -/
theorem isOwnership_iff (h : Survey style root ds (fun _ => True) owners)
    (hn : (ds.map (·.name)).Nodup) (owns : Site → Prop) :
    IsOwnership style root owns ↔ ∀ a, owns a ↔ a ∈ owners := by
  constructor
  · exact fun ho a => h.decided owns ho a trivial
  · intro heq
    obtain rfl : owns = (· ∈ owners) := funext fun a => propext (heq a)
    refine fun a => ⟨fun ha => ⟨h.met a ha, fun b hb hm he => ?_⟩, fun ⟨hm, hfirst⟩ => ?_⟩
    · -- Were one met before it, the owner of the name would be another one.
      obtain ⟨x, hx, hle, hxn⟩ := h.covered b trivial hm
      have hxa : x = a := h.eq_of_nameAt?_eq hn hx ha (hxn.trans he)
      rcases hle with rfl | hlt
      · exact List.lt_irrefl a (hxa ▸ hb)
      · exact List.lt_asymm hb (hxa ▸ hlt)
    · obtain ⟨b, hb, hle, hbn⟩ := h.covered a trivial hm
      rcases hle with rfl | hlt
      · exact hb
      · exact absurd hbn (hfirst b hlt (h.met b hb))

end Survey

/-! ## The walk keeps to the rule -/

/-- After the last member of an object there is nothing more in it. -/
theorem lt_snoc_or_none_of_isPrefix {root : Option SampledObject} {a b : Site} {o : SampledObject}
    {j : Nat} (ha : objectAt? root a = some o) (hj : o.members.length ≤ j) (hab : a <+: b) :
    b < a ++ [j] ∨ objectAt? root b = none := by
  rcases Site.eq_or_snoc_isPrefix hab with rfl | ⟨k, hk⟩
  · exact Or.inl (Site.lt_snoc b j)
  · by_cases hkj : k < j
    · exact Or.inl (Site.lt_snoc_of_isPrefix hkj hk)
    · right
      refine objectAt?_eq_none_of_isPrefix hk ?_
      rw [objectAt?_snoc, ha, Option.bind_some, SampledObject.member?,
        List.getElem?_eq_none (by omega), Option.bind_none]

/-- The open objects lie on the way to the object at a site, of which `j` members were walked. -/
inductive Trail (style : NamingStyle) (root : Option SampledObject) :
    List Frame → Site → Nat → Prop
  | root {o : SampledObject} (j : Nat) (h : objectAt? root [] = some o) :
      Trail style root [o.frame style j] [] j
  | member {o : SampledObject} {outer : List Frame} {a : Site} {i : Nat} (j : Nat)
      (holder : Trail style root outer a (i + 1)) (h : objectAt? root (a ++ [i]) = some o) :
      Trail style root (o.frame style j :: outer) (a ++ [i]) j

namespace Trail

variable {style : NamingStyle} {root : Option SampledObject}

/-- The innermost frame is that of the object at the site, and below it lies the way to its holder.
-/
theorem innermost {frames : List Frame} {a : Site} {j : Nat} (h : Trail style root frames a j) :
    ∃ o outer, frames = o.frame style j :: outer ∧ objectAt? root a = some o ∧
      (∀ j', Trail style root (o.frame style j' :: outer) a j') ∧
      (outer = [] ∧ a = [] ∨ ∃ b i, a = b ++ [i] ∧ Trail style root outer b (i + 1)) := by
  cases h with
  | root j ho => exact ⟨_, [], rfl, ho, fun j' => .root j' ho, Or.inl ⟨rfl, rfl⟩⟩
  | member j holder ho =>
    exact ⟨_, _, rfl, ho, fun j' => .member j' holder ho, Or.inr ⟨_, _, rfl, holder⟩⟩

/-- An open object is one that stands around the innermost. -/
theorem exists_isPrefix {frames : List Frame} {a : Site} {j : Nat} (h : Trail style root frames a j)
    {name : Text} (hn : name ∈ frames.map (·.name)) :
    ∃ b, b <+: a ∧ nameAt? style root b = some name := by
  induction h with
  | root j ho =>
    obtain rfl := List.mem_singleton.mp hn
    exact ⟨[], List.prefix_refl _, nameAt?_of_some ho⟩
  | @member o outer a i j _ ho ih =>
    rcases List.mem_cons.mp hn with rfl | hn
    · exact ⟨a ++ [i], List.prefix_refl _, nameAt?_of_some ho⟩
    · obtain ⟨b, hb, hbn⟩ := ih hn
      exact ⟨b, hb.trans (List.prefix_append a [i]), hbn⟩

/-- The next member of the innermost object, and the way when it was walked. -/
theorem next {frames outer : List Frame} {a : Site} {j : Nat} (h : Trail style root frames a j)
    {name : Text} {scope : FieldScope} {key : Text} {value : Json} {members : List (Text × Json)}
    (hf : frames = ⟨name, scope, (key, value) :: members⟩ :: outer) :
    objectAt? root (a ++ [j]) = SampledObject.of? value (.ofKey key) true ∧
      Trail style root (⟨name, (scope.assign key).2, members⟩ :: outer) a (j + 1) := by
  obtain ⟨o, outer', hframes, ho, hopen, _⟩ := h.innermost
  rw [hframes] at hf
  obtain ⟨hframe, rfl⟩ := List.cons.inj hf
  refine ⟨?_, SampledObject.frame_succ hframe ▸ hopen (j + 1)⟩
  rw [objectAt?_snoc, ho, Option.bind_some, SampledObject.member?_of_frame hframe]

/-- When the innermost object has no more members, nothing is left in it, and its holder is where
the way goes on, if it has one. -/
theorem outward {frames outer : List Frame} {a : Site} {j : Nat} (h : Trail style root frames a j)
    {name : Text} {scope : FieldScope} (hf : frames = ⟨name, scope, []⟩ :: outer) :
    (∀ b, a <+: b → b < a ++ [j] ∨ objectAt? root b = none) ∧
      (outer = [] ∧ a = [] ∨ ∃ b i, a = b ++ [i] ∧ Trail style root outer b (i + 1)) := by
  obtain ⟨o, outer', hframes, ho, _, houter⟩ := h.innermost
  rw [hframes] at hf
  obtain ⟨hframe, rfl⟩ := List.cons.inj hf
  have hj : o.members.length ≤ j := List.drop_eq_nil_iff.mp (congrArg Frame.members hframe)
  exact ⟨fun b hab => lt_snoc_or_none_of_isPrefix ho hj hab, houter⟩

end Trail

/-- How far a walk has come: it is about to walk member number `j` of the object at `a`, or done. -/
inductive Progress (style : NamingStyle) (root : Option SampledObject) (walk : Walk) : Prop
  | going {a : Site} {j : Nat} {owners : List Site}
      (trail : Trail style root walk.frames a j) (around : ∀ b, b <+: a → b ∈ owners)
      (survey : Survey style root (walk.completed style) (· < a ++ [j]) owners)
  | done {owners : List Site} (closed : walk.frames = [])
      (survey : Survey style root (walk.completed style) (fun _ => True) owners)

namespace Progress

variable {style : NamingStyle} {root : Option SampledObject} {walk : Walk} {a : Site} {j : Nat}
  {owners : List Site} {name : Text} {scope : FieldScope} {outer : List Frame}

theorem close (trail : Trail style root walk.frames a j) (around : ∀ b, b <+: a → b ∈ owners)
    (survey : Survey style root (walk.completed style) (· < a ++ [j]) owners)
    (hf : walk.frames = ⟨name, scope, []⟩ :: outer) (trace : List InferenceEvent) :
    Progress style root ⟨⟨walk.findings.shapes, trace⟩, outer⟩ := by
  obtain ⟨hrest, houter⟩ := trail.outward hf
  rw [← Walk.completed_close hf trace] at survey
  rcases houter with ⟨rfl, rfl⟩ | ⟨b, i, rfl, holder⟩
  · refine .done rfl (survey.pass (fun _ _ => trivial) fun x _ => ?_)
    exact hrest x List.nil_prefix
  · -- What was passed of the object is now passed with the object.
    have hpast : ∀ x, x < b ++ [i] ++ [j] → x < b ++ [i + 1] := by
      intro x hx
      by_cases hp : b ++ [i] <+: x
      · exact Site.lt_snoc_succ.mpr (Or.inr hp)
      · exact Site.lt_snoc_succ.mpr (Or.inl (Site.lt_of_lt_snoc hx hp))
    have hnew : ∀ x, x < b ++ [i + 1] → x < b ++ [i] ++ [j] ∨ objectAt? root x = none := by
      intro x hx
      rcases Site.lt_snoc_succ.mp hx with hx | hx
      · exact Or.inl (List.lt_trans hx (Site.lt_snoc _ j))
      · exact hrest x hx
    refine .going holder (fun x hx => ?_) (survey.pass hpast hnew)
    exact around x (hx.trans (List.prefix_append b [i]))

theorem keep (trail : Trail style root walk.frames a j) (around : ∀ b, b <+: a → b ∈ owners)
    (survey : Survey style root (walk.completed style) (· < a ++ [j]) owners) {key : Text}
    {value : Json} {members : List (Text × Json)}
    (hf : walk.frames = ⟨name, scope, (key, value) :: members⟩ :: outer)
    (hknown : ∀ o, SampledObject.of? value (.ofKey key) true = some o →
      o.name style ∈ walk.findings.shapes.names) (trace : List InferenceEvent) :
    Progress style root
      ⟨⟨walk.findings.shapes.addField name (memberField style scope key value), trace⟩,
        ⟨name, (scope.assign key).2, members⟩ :: outer⟩ := by
  obtain ⟨hat, hnext⟩ := trail.next hf
  rw [← Walk.completed_keep hf trace] at survey
  refine .going hnext around (survey.cross fun o ho => ?_)
  rw [hat] at ho
  rw [Walk.names_completed, Shapes.names_addField]
  exact hknown o ho

theorem descend (hs : walk.Sound) (trail : Trail style root walk.frames a j)
    (around : ∀ b, b <+: a → b ∈ owners)
    (survey : Survey style root (walk.completed style) (· < a ++ [j]) owners) {key : Text}
    {value : Json} {members : List (Text × Json)} {o : SampledObject}
    (hf : walk.frames = ⟨name, scope, (key, value) :: members⟩ :: outer)
    (hfound : SampledObject.of? value (.ofKey key) true = some o)
    (hfree : o.name style ∉ walk.findings.shapes.names) (trace : List InferenceEvent) :
    Progress style root
      ⟨⟨(walk.findings.shapes.insertIfNew { name := o.name style }).addField name
          (memberField style scope key value), trace⟩,
        o.frame style 0 :: ⟨name, (scope.assign key).2, members⟩ :: outer⟩ := by
  obtain ⟨hat, hnext⟩ := trail.next hf
  rw [hfound] at hat
  have hown : Survey style root (walk.completed style ++ [o.declaration style])
      (fun x => x < a ++ [j] ∨ x = a ++ [j]) (owners ++ [a ++ [j]]) := by
    refine survey.own hat (Or.inr ⟨a, j, rfl, around a (List.prefix_refl a)⟩) ?_
    rw [Walk.names_completed]
    exact hfree
  rw [← hs.completed_descend hf hfree trace] at hown
  refine .going (.member 0 hnext hat) (fun x hx => ?_) (hown.pass (fun x hx => ?_) fun x hx => ?_)
  · rcases List.prefix_concat_iff.mp hx with rfl | hx
    · exact List.mem_append_right _ (List.mem_singleton_self _)
    · exact List.mem_append_left _ (around x hx)
  · exact Site.lt_snoc_zero.mpr hx
  · exact Or.inl (Site.lt_snoc_zero.mp hx)

/-- **The walk keeps to the rule.** -/
theorem move {walk' : Walk} (h : Progress style root walk) (hs : walk.Sound)
    (hm : Walk.Move style walk walk') : Progress style root walk' := by
  cases h with
  | done hd _ =>
    cases hm with
    | close _ hf => rw [hd] at hf; exact absurd hf (by simp)
    | keep _ hf _ => rw [hd] at hf; exact absurd hf (by simp)
    | descend _ hf _ _ => rw [hd] at hf; exact absurd hf (by simp)
  | going trail around survey =>
    cases hm with
    | close trace hf => exact close trail around survey hf trace
    | keep trace hf hknown => exact keep trail around survey hf hknown trace
    | descend trace hf hfound hfree =>
      exact descend hs trail around survey hf hfound hfree trace

end Progress

end SampleTypes
