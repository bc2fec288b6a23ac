import SampleTypes.Proofs.Files.Tree

/-!
# Looking at files

Whether there is something at a path can be asked of every path but those that are too long
(`FileTree.isPresent_eq_error_iff`): as a whole, or because of a name that is met on the way. A name is
only met in a directory, so that a long name behind something that is not there does no harm.

The text of a file of ASCII characters is read as it stands (`FileTree.readText_of_ascii`).
-/

set_option autoImplicit false

namespace SampleTypes

/-! ## Texts of ASCII characters -/

namespace Utf8

variable {bytes : List UInt8}

theorem State.read_of_ascii {state : State} {byte : UInt8} (hneeded : state.needed = 0)
    (hascii : byte.toNat < 0x80) : ∃ next, state.read byte = .ok next ∧ next.needed = 0 ∧
      next.decoded = Char.ofNat byte.toNat :: state.decoded := by
  rw [State.read, if_pos hneeded, leadByte?, if_pos hascii]
  exact ⟨_, rfl, rfl, rfl⟩

theorem State.foldlM_read_of_ascii {state : State} (hneeded : state.needed = 0)
    (hascii : ∀ byte ∈ bytes, byte.toNat < 0x80) : ∃ last, bytes.foldlM State.read state = .ok last ∧
      last.needed = 0 ∧
        last.decoded = (bytes.map fun byte => Char.ofNat byte.toNat).reverse ++ state.decoded := by
  induction bytes generalizing state with
  | nil => exact ⟨state, rfl, hneeded, rfl⟩
  | cons byte bytes ih =>
    obtain ⟨hbyte, hbytes⟩ := List.forall_mem_cons.mp hascii
    obtain ⟨next, hread, hnext, hdecoded⟩ := State.read_of_ascii hneeded hbyte
    obtain ⟨last, hrun, hlast, hall⟩ := ih hnext hbytes
    refine ⟨last, ?_, hlast, by simp [hall, hdecoded]⟩
    rw [List.foldlM_cons, bind_eq_ok_iff]
    exact ⟨next, hread, hrun⟩

/-- ASCII characters are encoded by their own numbers. -/
theorem decode_of_ascii (hascii : ∀ byte ∈ bytes, byte.toNat < 0x80) :
    decode bytes = .ok (bytes.map fun byte => Char.ofNat byte.toNat) := by
  have hstart : ({} : State).needed = 0 := rfl
  obtain ⟨last, hrun, hlast, hdecoded⟩ := State.foldlM_read_of_ascii hstart hascii
  rw [decode, bind_eq_ok_iff]
  refine ⟨last, hrun, ?_⟩
  rw [if_pos hlast, hdecoded]
  simp

end Utf8

/-- Without carriage returns, the line ends are those already that are wanted. -/
theorem unifyLineEnds_eq_self {cs : List Char} (h : '\r' ∉ cs) : unifyLineEnds cs = cs := by
  rw [unifyLineEnds]
  induction cs with
  | nil => rfl
  | cons c cs ih =>
    obtain ⟨hc, hcs⟩ := not_or.mp fun hmem => h (List.mem_cons.mpr hmem)
    rw [List.foldr_cons]
    dsimp only
    rw [if_neg (Ne.symm hc), ih hcs]

namespace FileTree

variable {tree : FileTree} {place : Location} {path : FilePath} {bytes : List UInt8}

/-- A file of ASCII characters without carriage returns holds the text that it seems to. -/
theorem readText_of_ascii (hread : tree.readBytes path = .ok bytes)
    (hascii : ∀ byte ∈ bytes, byte.toNat < 0x80)
    (hends : '\r' ∉ bytes.map fun byte => Char.ofNat byte.toNat) :
    tree.readText path = .ok (bytes.map fun byte => Char.ofNat byte.toNat) := by
  rw [readText, hread]
  dsimp only
  rw [Utf8.decode_of_ascii hascii]
  dsimp only
  rw [unifyLineEnds_eq_self hends]

/-! ## Presence -/

/-- A file that can be read is there. -/
theorem isPresent_of_readBytes (h : tree.readBytes path = .ok bytes) :
    tree.isPresent path = .ok true := by
  rw [readBytes, bind_eq_ok_iff] at h
  obtain ⟨entry, hentry, -⟩ := h
  rw [isPresent, hentry]

/-- On the way along components, a name is met that is too long. -/
def MeetsLongName (tree : FileTree) (place : Location) (parts : List Text) : Prop :=
  ∃ before name after last, parts = before ++ name :: after ∧
    before.foldlM tree.enter place = .ok last ∧ tree.find? last = some .directory ∧
      name ≠ FilePath.above ∧ nameLimit < (Utf8.encode name).length

/-- A path is too long to be looked at. One with a null character is not looked at in the first place. -/
structure Overlong (tree : FileTree) (path : FilePath) : Prop where
  noNull : ∀ part ∈ path.parts, CodePoint.scalar '\x00' ∉ part
  long : pathLimit < (Utf8.encode path.display).length ∨
    tree.MeetsLongName (Location.start path) path.parts

theorem enter_eq_nameTooLong_iff {name : Text} : tree.enter place name = .error .nameTooLong ↔
    tree.find? place = some .directory ∧ name ≠ FilePath.above ∧
      nameLimit < (Utf8.encode name).length := by
  unfold enter
  rcases tree.find? place with _ | _ | _ <;>
    simp only [reduceCtorEq, Option.some.injEq, Except.error.injEq, false_and, true_and]
  by_cases habove : name = FilePath.above
  · simp [habove]
  · by_cases hlong : nameLimit < (Utf8.encode name).length
    · simp [habove, hlong]
    · simp [habove, hlong]

theorem locate_eq_nameTooLong_iff : tree.locate path = .error .nameTooLong ↔ tree.Overlong path := by
  unfold locate
  split
  · rename_i hnull
    obtain ⟨part, hpart, hnull⟩ := List.any_eq_true.mp hnull
    exact iff_of_false nofun fun h => h.noNull part hpart (List.contains_iff_mem.mp hnull)
  · rename_i hnull
    have hnoNull : ∀ part ∈ path.parts, CodePoint.scalar '\x00' ∉ part := by
      intro part hpart hmem
      exact hnull (List.any_eq_true.mpr ⟨part, hpart, List.contains_iff_mem.mpr hmem⟩)
    split
    · rename_i hlong
      exact iff_of_true rfl ⟨hnoNull, Or.inl hlong⟩
    · rename_i hshort
      rw [foldlM_eq_error_iff]
      simp only [enter_eq_nameTooLong_iff]
      exact ⟨fun h => ⟨hnoNull, Or.inr h⟩, fun h => h.long.resolve_left hshort⟩

theorem lookUp_eq_nameTooLong_iff :
    tree.lookUp path = .error .nameTooLong ↔ tree.locate path = .error .nameTooLong := by
  rw [lookUp, bind_eq_error_iff]
  refine or_iff_left ?_
  rintro ⟨place, -, h⟩
  split at h <;> cases h

/-- Only of a path that is too long it cannot be asked whether there is something at it. -/
theorem isPresent_eq_error_iff {fault : FileFault} :
    tree.isPresent path = .error fault ↔ fault = .nameTooLong ∧ tree.Overlong path := by
  rw [← locate_eq_nameTooLong_iff, ← lookUp_eq_nameTooLong_iff, isPresent]
  split
  · rename_i hfound
    simp [hfound]
  · rename_i hlong
    simp [hlong, eq_comm]
  · rename_i hother hfault
    refine iff_of_false nofun fun h => hother ?_
    rw [hfault] at h
    exact Except.error.inj h.2

end FileTree

end SampleTypes
