import SampleTypes.Registry

/-!
# Values by key

A table of a registry and the members of a JSON object are the same thing, a list of keys with their
values, and `setValue` and `Json.setMember` are one function. What setting a value does is said here for
both: the key takes the value, every other key keeps its own, and no key comes to stand twice.
-/

set_option autoImplicit false

namespace SampleTypes

variable {α : Type} {key k : Text} {value v : α} {entries : List (Text × α)}

@[simp]
theorem valueAt?_setValue (key k : Text) (value : α) (entries : List (Text × α)) :
    valueAt? k (setValue key value entries) =
      if k = key then some value else valueAt? k entries := by
  induction entries with
  | nil => simp [setValue, valueAt?, eq_comm]
  | cons entry entries ih =>
    obtain ⟨other, old⟩ := entry
    by_cases hother : other = key
    · subst hother
      simp only [setValue, valueAt?, if_true, eq_comm]
      split <;> rfl
    · rw [setValue, if_neg hother, valueAt?, valueAt?, ih]
      by_cases hk : other = k
      · subst hk
        simp [hother]
      · simp [hk]

theorem mem_of_valueAt? (h : valueAt? k entries = some v) : (k, v) ∈ entries := by
  induction entries with
  | nil => exact absurd h (by simp [valueAt?])
  | cons entry entries ih =>
    obtain ⟨other, old⟩ := entry
    rw [valueAt?] at h
    split at h
    · rename_i hk
      rw [hk, ← Option.some.inj h]
      exact List.mem_cons_self
    · exact List.mem_cons_of_mem _ (ih h)

theorem isSome_valueAt?_iff : (valueAt? k entries).isSome = true ↔ k ∈ entries.map (·.1) := by
  induction entries with
  | nil => simp [valueAt?]
  | cons entry entries ih =>
    rw [valueAt?, List.map_cons, List.mem_cons]
    split
    · rename_i hk
      simp [hk]
    · rename_i hk
      rw [ih]
      simp [Ne.symm hk]

theorem valueAt?_of_mem (hkeys : (entries.map (·.1)).Nodup) (h : (k, v) ∈ entries) :
    valueAt? k entries = some v := by
  induction entries with
  | nil => exact absurd h (by simp)
  | cons entry entries ih =>
    obtain ⟨other, old⟩ := entry
    obtain ⟨hnew, hkeys⟩ := List.nodup_cons.mp hkeys
    rw [valueAt?]
    rcases List.mem_cons.mp h with heq | h
    · rw [(Prod.mk.inj heq).1, (Prod.mk.inj heq).2, if_pos rfl]
    · have hk : other ≠ k := fun hk => hnew (hk ▸ List.mem_map_of_mem (f := (·.1)) h)
      rw [if_neg hk]
      exact ih hkeys h

theorem mem_setValue {entry : Text × α} (h : entry ∈ setValue key value entries) :
    entry = (key, value) ∨ entry ∈ entries := by
  induction entries with
  | nil => exact Or.inl (List.mem_singleton.mp h)
  | cons other entries ih =>
    rw [setValue] at h
    split at h
    · rename_i hk
      rcases List.mem_cons.mp h with rfl | h
      · exact Or.inl (by rw [hk])
      · exact Or.inr (List.mem_cons_of_mem _ h)
    · rcases List.mem_cons.mp h with rfl | h
      · exact Or.inr List.mem_cons_self
      · exact (ih h).imp_right (List.mem_cons_of_mem _)

theorem mem_keys_setValue :
    k ∈ (setValue key value entries).map (·.1) ↔ k = key ∨ k ∈ entries.map (·.1) := by
  rw [← isSome_valueAt?_iff, ← isSome_valueAt?_iff, valueAt?_setValue]
  split <;> simp_all

theorem nodup_keys_setValue (hkeys : (entries.map (·.1)).Nodup) :
    ((setValue key value entries).map (·.1)).Nodup := by
  induction entries with
  | nil => simp [setValue]
  | cons entry entries ih =>
    obtain ⟨hnew, hkeys⟩ := List.nodup_cons.mp hkeys
    rw [setValue]
    split
    · exact List.nodup_cons.mpr ⟨hnew, hkeys⟩
    · rename_i hk
      refine List.nodup_cons.mpr ⟨fun h => ?_, ih hkeys⟩
      rcases mem_keys_setValue.mp h with h | h
      · exact hk h
      · exact hnew h

/-! ## Values set one after another -/

theorem setValue_setValue_self (key : Text) (first last : α) (entries : List (Text × α)) :
    setValue key last (setValue key first entries) = setValue key last entries := by
  induction entries with
  | nil => simp [setValue]
  | cons entry entries ih =>
    by_cases hk : entry.1 = key
    · simp [setValue, hk]
    · simp [setValue, hk, ih]

/-- A key that is there keeps its place, so that another one may be set before it or after it. -/
theorem setValue_comm (hne : k ≠ key) (hthere : key ∈ entries.map (·.1)) :
    setValue k v (setValue key value entries) = setValue key value (setValue k v entries) := by
  induction entries with
  | nil => exact absurd hthere (by simp)
  | cons entry entries ih =>
    by_cases hkey : entry.1 = key
    · simp [setValue, hkey, hne.symm]
    · have hrest : key ∈ entries.map (·.1) :=
        (List.mem_cons.mp hthere).resolve_left fun h => hkey h.symm
      by_cases hk : entry.1 = k
      · simp [setValue, hk, hne]
      · simp [setValue, hkey, hk, ih hrest]

/-! ## Members of JSON objects -/

namespace Json

variable {name other : Text} {member : Json} {members : List (Text × Json)}

theorem setMember_eq_setValue (name : Text) (member : Json) (members : List (Text × Json)) :
    setMember name member members = setValue name member members := by
  induction members with
  | nil => rfl
  | cons first members ih => rw [setMember, setValue, ih]

theorem getMember?_eq_valueAt? (name : Text) (members : List (Text × Json)) :
    getMember? name members = valueAt? name members := by
  induction members with
  | nil => rfl
  | cons first members ih => rw [getMember?, valueAt?, ih]

@[simp]
theorem getMember?_setMember (name other : Text) (member : Json) (members : List (Text × Json)) :
    getMember? other (setMember name member members) =
      if other = name then some member else getMember? other members := by
  simp only [setMember_eq_setValue, getMember?_eq_valueAt?, valueAt?_setValue]

theorem getMember?_eq_none_iff : getMember? name members = none ↔ name ∉ members.map (·.1) := by
  rw [getMember?_eq_valueAt?, ← isSome_valueAt?_iff, Bool.not_eq_true, Option.isSome_eq_false_iff,
    Option.isNone_iff_eq_none]

theorem getMember?_eq_some_iff (hkeys : (members.map (·.1)).Nodup) :
    getMember? name members = some member ↔ (name, member) ∈ members := by
  rw [getMember?_eq_valueAt?]
  exact ⟨mem_of_valueAt?, valueAt?_of_mem hkeys⟩

/-- With a key of its own, a member may as well be looked at last. -/
theorem getMember?_cons_of_notMem {first : Text × Json} (hnew : first.1 ∉ members.map (·.1))
    (name : Text) : getMember? name (first :: members) =
      (getMember? name members).or (getMember? name [first]) := by
  by_cases hname : first.1 = name
  · simp [getMember?, ← hname, getMember?_eq_none_iff.mpr hnew]
  · simp [getMember?, hname]

theorem nodup_keys_setMember (h : (members.map (·.1)).Nodup) :
    ((setMember name member members).map (·.1)).Nodup := by
  rw [setMember_eq_setValue]
  exact nodup_keys_setValue h

/-! ## Members set one after another -/

theorem nodup_keys_foldl_setMember (pairs : List (Text × Json)) (h : (members.map (·.1)).Nodup) :
    ((pairs.foldl (fun members pair => setMember pair.1 pair.2 members) members).map (·.1)).Nodup := by
  induction pairs generalizing members with
  | nil => exact h
  | cons pair pairs ih => exact ih (nodup_keys_setMember h)

/-- What comes of it was set or was there before. -/
theorem mem_foldl_setMember {entry : Text × Json} {pairs : List (Text × Json)}
    (h : entry ∈ pairs.foldl (fun members pair => setMember pair.1 pair.2 members) members) :
    entry ∈ pairs ∨ entry ∈ members := by
  induction pairs generalizing members with
  | nil => exact Or.inr h
  | cons pair pairs ih =>
    rw [List.foldl_cons, setMember_eq_setValue] at h
    rcases ih h with h | h
    · exact Or.inl (List.mem_cons_of_mem _ h)
    · rcases mem_setValue h with rfl | h
      · exact Or.inl List.mem_cons_self
      · exact Or.inr h

end Json

end SampleTypes
