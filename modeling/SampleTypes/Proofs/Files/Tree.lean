import SampleTypes.Files.Tree
import SampleTypes.Proofs.Generation.FileNames
import SampleTypes.Proofs.Lists

/-!
# What writing changes

Writing a file changes what stands at one place, and making directories puts some where nothing was.
Either way no directory goes, so every path that led to a place still leads to it (`FileTree.locate_mono`);
and a written file adds none, so no path comes to lead anywhere. What a series of writes leaves behind
follows: **each file holds what was written to it last, and every other place holds what it held**.
-/

set_option autoImplicit false

namespace SampleTypes

namespace FileTree

variable {tree before after : FileTree} {place : Location} {path : FilePath}

/-! ## Places -/

@[simp]
theorem find?_nil : tree.find? [] = some .directory := rfl

section Replacing

variable (entries : List (Location × FileEntry)) (place : Location) (entry : FileEntry)

/-- The entries with one in place of that at a place. -/
abbrev replaced : List (Location × FileEntry) :=
  entries.map fun old => if old.1 = place then (place, entry) else old

theorem find?_replaced_self {entries} (h : entries.any (·.1 == place)) :
    (replaced entries place entry).find? (·.1 == place) = some (place, entry) := by
  induction entries with
  | nil => cases h
  | cons old entries ih =>
    rw [replaced, List.map_cons, List.find?_cons]
    by_cases hold : old.1 = place
    · simp [hold]
    · rw [List.any_cons, beq_false_of_ne hold, Bool.false_or] at h
      rw [if_neg hold, beq_false_of_ne hold]
      exact ih h

theorem find?_replaced_of_ne {other : Location} (h : other ≠ place) :
    (replaced entries place entry).find? (·.1 == other) = entries.find? (·.1 == other) := by
  induction entries with
  | nil => rfl
  | cons old entries ih =>
    rw [replaced, List.map_cons, List.find?_cons, List.find?_cons]
    by_cases hold : old.1 = place
    · rw [if_pos hold, hold, beq_false_of_ne h.symm]
      exact ih
    · rw [if_neg hold]
      split
      · rfl
      · exact ih

end Replacing

theorem find?_put (hplace : place ≠ []) (entry : FileEntry) (other : Location) :
    (tree.put place entry).find? other = if other = place then some entry else tree.find? other := by
  rcases other with _ | ⟨part, parts⟩
  · simp [hplace.symm]
  by_cases hthere : tree.entries.any (·.1 == place)
  · simp only [find?, put, hthere, if_true]
    by_cases hother : part :: parts = place
    · simp [hother, hplace, find?_replaced_self _ _ hthere]
    · simp [hother, find?_replaced_of_ne _ _ _ hother]
  · have hfree : tree.entries.find? (fun old => old.1 == place) = none := by
      rw [List.find?_eq_none]
      intro old hold heq
      exact hthere (List.any_eq_true.mpr ⟨old, hold, heq⟩)
    simp only [find?, put, hthere]
    by_cases hother : part :: parts = place
    · subst hother
      simp [List.find?_append, hfree]
    · simp [List.find?_append, hother, Ne.symm hother]

/-! ## Paths -/

/-- Every directory of a tree is one of the other, too. -/
def DirectoriesIn (before after : FileTree) : Prop :=
  ∀ place, before.find? place = some .directory → after.find? place = some .directory

theorem enter_eq_ok {part : Text} {next : Location} : tree.enter place part = .ok next ↔
    tree.find? place = some .directory ∧
      (part = FilePath.above ∧ place.above = next ∨
        part ≠ FilePath.above ∧ (Utf8.encode part).length ≤ nameLimit ∧ place ++ [part] = next) := by
  rw [enter]
  rcases tree.find? place with _ | _ | _ <;>
    simp only [reduceCtorEq, Option.some.injEq, false_and, true_and]
  by_cases habove : part = FilePath.above
  · simp [habove]
  · by_cases hlong : nameLimit < (Utf8.encode part).length
    · simp [habove, hlong, Nat.not_le.mpr hlong]
    · simp [habove, hlong, Nat.not_lt.mp hlong]

namespace DirectoriesIn

theorem walk (h : DirectoriesIn before after) {parts : List Text} {last : Location}
    (hwalk : parts.foldlM before.enter place = .ok last) :
    parts.foldlM after.enter place = .ok last := by
  induction parts generalizing place with
  | nil => exact hwalk
  | cons part parts ih =>
    rw [List.foldlM_cons, bind_eq_ok_iff] at hwalk ⊢
    obtain ⟨next, henter, hwalk⟩ := hwalk
    obtain ⟨hplace, hnext⟩ := enter_eq_ok.mp henter
    exact ⟨next, enter_eq_ok.mpr ⟨h place hplace, hnext⟩, ih hwalk⟩

theorem locate (h : DirectoriesIn before after) (hlocate : before.locate path = .ok place) :
    after.locate path = .ok place := by
  rw [FileTree.locate] at hlocate ⊢
  split_ifs at hlocate ⊢
  exact h.walk hlocate

end DirectoriesIn

/-- The path of an entry leads to the place of the entry in the place of the directory. -/
theorem exists_of_locate_child {directory : FilePath} {name : Text} (hname : FilePath.IsEntry name)
    (h : tree.locate (directory.child name) = .ok place) :
    ∃ base, directory.parts.foldlM tree.enter (Location.start directory) = .ok base ∧
      place = base ++ [name] := by
  rw [locate] at h
  split_ifs at h
  rw [FilePath.child, hname.parts] at h
  change (directory.parts ++ [name]).foldlM tree.enter (Location.start directory) = _ at h
  rw [List.foldlM_append, bind_eq_ok_iff] at h
  obtain ⟨base, hbase, h⟩ := h
  rw [List.foldlM_cons, bind_eq_ok_iff] at h
  obtain ⟨next, henter, hlast⟩ := h
  obtain rfl : next = place := by simpa [pure, Except.pure] using hlast
  obtain ⟨_, ⟨habove, _⟩ | ⟨_, _, rfl⟩⟩ := enter_eq_ok.mp henter
  · exact absurd habove hname.apart
  · exact ⟨base, hbase, rfl⟩

/-- Entries with different names stand at different places. -/
theorem locate_child_ne {directory : FilePath} {name other : Text} (hname : FilePath.IsEntry name)
    (hother : FilePath.IsEntry other) (hne : name ≠ other)
    (h : tree.locate (directory.child name) = .ok place) :
    tree.locate (directory.child other) ≠ .ok place := by
  intro h'
  obtain ⟨base, hbase, rfl⟩ := exists_of_locate_child hname h
  obtain ⟨base', hbase', heq⟩ := exists_of_locate_child hother h'
  rw [hbase] at hbase'
  cases hbase'
  exact hne (List.singleton_inj.mp (List.append_cancel_left heq))

/-! ## Writing files -/

theorem readBytes_eq_ok {bytes : List UInt8} : tree.readBytes path = .ok bytes ↔
    ∃ place, tree.locate path = .ok place ∧ tree.find? place = some (.file bytes) := by
  rw [readBytes, bind_eq_ok_iff]
  simp only [lookUp, bind_eq_ok_iff]
  constructor
  · rintro ⟨entry, ⟨place, hplace, hentry⟩, hbytes⟩
    refine ⟨place, hplace, ?_⟩
    rcases hfind : tree.find? place with _ | found <;> rw [hfind] at hentry <;> cases hentry
    cases entry <;> cases hbytes
    rfl
  · rintro ⟨place, hplace, hfind⟩
    exact ⟨.file bytes, ⟨place, hplace, by rw [hfind]⟩, rfl⟩

theorem writeBytes_eq_ok {bytes : List UInt8} : tree.writeBytes path bytes = .ok after ↔
    ∃ place, tree.locate path = .ok place ∧ tree.find? place ≠ some .directory ∧
      after = tree.put place (.file bytes) := by
  rw [writeBytes, bind_eq_ok_iff]
  refine exists_congr fun place => and_congr_right fun _ => ?_
  rcases tree.find? place with _ | _ | _ <;> simp [eq_comm]

/-- What a written file changes. -/
structure Writes (before after : FileTree) (path : FilePath) (place : Location)
    (bytes : List UInt8) : Prop where
  located : before.locate path = .ok place
  free : before.find? place ≠ some .directory
  find? : ∀ other, after.find? other =
    if other = place then some (.file bytes) else before.find? other

theorem exists_writes {bytes : List UInt8} (h : before.writeBytes path bytes = .ok after) :
    ∃ place, Writes before after path place bytes := by
  obtain ⟨place, hlocated, hfree, rfl⟩ := writeBytes_eq_ok.mp h
  have hplace : place ≠ [] := by
    rintro rfl
    exact hfree find?_nil
  exact ⟨place, hlocated, hfree, find?_put hplace (.file bytes)⟩

namespace Writes

variable {bytes : List UInt8} {other : FilePath} {target : Location}

/-- No directory comes or goes. -/
theorem directory_iff (h : Writes before after path place bytes) (target : Location) :
    after.find? target = some .directory ↔ before.find? target = some .directory := by
  rw [h.find?]
  split_ifs with htarget
  · subst htarget
    simp [h.free]
  · rfl

theorem locate_iff (h : Writes before after path place bytes) :
    after.locate other = .ok target ↔ before.locate other = .ok target :=
  ⟨DirectoriesIn.locate fun p => (h.directory_iff p).mp,
    DirectoriesIn.locate fun p => (h.directory_iff p).mpr⟩

theorem readBytes (h : Writes before after path place bytes) : after.readBytes path = .ok bytes := by
  refine readBytes_eq_ok.mpr ⟨place, h.locate_iff.mpr h.located, ?_⟩
  rw [h.find?, if_pos rfl]

theorem find?_of_ne (h : Writes before after path place bytes)
    (htarget : before.locate path ≠ .ok target) : after.find? target = before.find? target := by
  rw [h.find?, if_neg]
  rintro rfl
  exact htarget h.located

end Writes

/-- Files written one after the other. -/
inductive WritesAll : FileTree → FileTree → List (FilePath × List UInt8) → Prop where
  | nil {tree : FileTree} : WritesAll tree tree []
  | cons {before between after : FileTree} {path : FilePath} {place : Location}
      {bytes : List UInt8} {contents : List (FilePath × List UInt8)} :
      Writes before between path place bytes → WritesAll between after contents →
      WritesAll before after ((path, bytes) :: contents)

namespace WritesAll

variable {contents : List (FilePath × List UInt8)} {other : FilePath} {target : Location}

theorem locate_iff (h : WritesAll before after contents) :
    after.locate other = .ok target ↔ before.locate other = .ok target := by
  induction h with
  | nil => rfl
  | cons hwrite _ ih => exact ih.trans hwrite.locate_iff

/-- What no path of a written file leads to is as it was. -/
theorem find?_of_ne (h : WritesAll before after contents)
    (htarget : ∀ content ∈ contents, before.locate content.1 ≠ .ok target) :
    after.find? target = before.find? target := by
  induction h with
  | nil => rfl
  | cons hwrite _ ih =>
    obtain ⟨hhead, htail⟩ := List.forall_mem_cons.mp htarget
    rw [ih fun content hcontent => mt hwrite.locate_iff.mp (htail content hcontent)]
    exact hwrite.find?_of_ne hhead

/-- If their paths lead to different places, all written files can be read. -/
theorem readBytes (h : WritesAll before after contents)
    (hapart : contents.Pairwise fun c d =>
      ∀ place, before.locate c.1 = .ok place → before.locate d.1 ≠ .ok place) :
    ∀ content ∈ contents, after.readBytes content.1 = .ok content.2 := by
  induction h with
  | nil => simp
  | @cons before between after path place bytes contents hwrite hrest ih =>
    obtain ⟨hhead, htail⟩ := List.pairwise_cons.mp hapart
    rw [List.forall_mem_cons]
    constructor
    · -- The file is there after its own write, and no later one leads to it.
      refine readBytes_eq_ok.mpr
        ⟨place, (hrest.locate_iff.trans hwrite.locate_iff).mpr hwrite.located, ?_⟩
      rw [hrest.find?_of_ne fun content hcontent =>
        mt hwrite.locate_iff.mp (hhead content hcontent place hwrite.located), hwrite.find?, if_pos rfl]
    · refine ih (htail.imp fun h target hc => ?_)
      exact mt hwrite.locate_iff.mp (h target (hwrite.locate_iff.mp hc))

end WritesAll

/-! ## Making directories -/

/-- A tree grows by directories where nothing was. -/
def Grows (before after : FileTree) : Prop :=
  ∀ place, after.find? place = before.find? place ∨
    before.find? place = none ∧ after.find? place = some .directory

namespace Grows

theorem refl : Grows tree tree := fun _ => .inl rfl

theorem trans {between : FileTree} (h : Grows before between) (h' : Grows between after) :
    Grows before after := by
  intro place
  rcases h' place with hsame | ⟨hnone, hmade⟩
  · rw [hsame]
    exact h place
  · rcases h place with hsame' | ⟨_, hmade'⟩
    · exact .inr ⟨hsame' ▸ hnone, hmade⟩
    · simp [hmade'] at hnone

end Grows

theorem grows_makeDirectory (h : tree.makeDirectory path = .ok after) : Grows tree after := by
  rw [makeDirectory, bind_eq_ok_iff] at h
  obtain ⟨place, _, h⟩ := h
  rcases hnone : tree.find? place with _ | found <;> rw [hnone] at h <;> cases h
  have hplace : place ≠ [] := by
    rintro rfl
    simp at hnone
  intro other
  rw [find?_put hplace]
  split_ifs with hother
  · exact .inr ⟨hother ▸ hnone, rfl⟩
  · exact .inl rfl

theorem grows_ensureOne (h : tree.ensureOne path = .ok after) : Grows tree after := by
  rw [ensureOne] at h
  split at h
  · rename_i hmade
    cases h
    exact grows_makeDirectory hmade
  · split_ifs at h
    cases h
    exact Grows.refl

theorem grows_ensureDirectory (depth : Nat) (tree : FileTree) (path : FilePath) :
    Grows tree (ensureDirectory depth tree path).2 := by
  fun_induction ensureDirectory depth tree path with
  | case1 _ _ _ hmade => exact grows_makeDirectory hmade
  | case2 => exact Grows.refl
  | case3 path _ _ _ _ hbelow _ hone ih =>
    rw [hbelow] at ih
    exact ih.trans (grows_ensureOne hone)
  | case4 path _ _ _ _ hbelow _ _ ih => rwa [hbelow] at ih
  | case5 _ _ _ _ _ ih => exact ih
  | case6 => exact Grows.refl
  | case7 => exact Grows.refl

/-- Making directories changes nothing that is there, also if it fails. -/
theorem grows_makeDirectories (tree : FileTree) (path : FilePath) :
    Grows tree (tree.makeDirectories path).2 := grows_ensureDirectory path.parts.length tree path

/-! ## Texts in files -/

/-- There is a file at a path, and what it holds is a text in UTF-8. -/
def Holds (tree : FileTree) (path : FilePath) (t : Text) : Prop :=
  ∃ string : String, t = Text.ofString string ∧ tree.readBytes path = .ok string.toUTF8.toList

theorem exists_chars_of_surrogateFault? {t : Text} {offset : Nat}
    (h : Utf8.surrogateFault? offset t = none) : ∃ cs, t = Text.ofChars cs := by
  induction t generalizing offset with
  | nil => exact ⟨[], rfl⟩
  | cons c t ih =>
    cases c with
    | surrogate half => cases h
    | scalar c =>
      obtain ⟨cs, rfl⟩ := ih h
      exact ⟨c :: cs, rfl⟩

theorem encodeStrictly_eq_ok {t : Text} {bytes : List UInt8} : Utf8.encodeStrictly t = .ok bytes ↔
    Utf8.surrogateFault? 0 t = none ∧ Utf8.encode t = bytes := by
  rw [Utf8.encodeStrictly]
  cases Utf8.surrogateFault? 0 t <;> simp

theorem holds_of_readBytes {t : Text} (h : Utf8.surrogateFault? 0 t = none)
    (hread : tree.readBytes path = .ok (Utf8.encode t)) : tree.Holds path t := by
  obtain ⟨cs, rfl⟩ := exists_chars_of_surrogateFault? h
  have hchars : (Text.ofChars cs).map CodePoint.toChar = cs := by
    rw [Text.ofChars, List.map_map]
    exact List.map_id cs
  rw [Utf8.encode, hchars] at hread
  exact ⟨String.ofList cs, by rw [Text.ofString, String.toList_ofList], hread⟩

/-- A text was written into a file, and nothing else was changed. -/
structure Saved (before after : FileTree) (path : FilePath) (t : Text) : Prop where
  holds : after.Holds path t
  others : ∀ place, after.locate path ≠ .ok place → after.find? place = before.find? place

theorem Writes.saved {t : Text} (h : Writes before after path place (Utf8.encode t))
    (hencoded : Utf8.surrogateFault? 0 t = none) : Saved before after path t where
  holds := holds_of_readBytes hencoded h.readBytes
  others _ htarget := h.find?_of_ne (mt h.locate_iff.mpr htarget)

/-- Texts were written into files with given names in a directory, and nothing else was changed except
that directories were made where nothing was. -/
structure SavedIn (before after : FileTree) (directory : FilePath) (texts : List (Text × Text)) :
    Prop where
  holds : ∀ text ∈ texts, after.Holds (directory.child text.1) text.2
  others : ∀ place, (∀ text ∈ texts, after.locate (directory.child text.1) ≠ .ok place) →
    after.find? place = before.find? place ∨
      before.find? place = none ∧ after.find? place = some .directory

/-- Texts as they are written into a directory. -/
def contentsIn (directory : FilePath) (texts : List (Text × Text)) : List (FilePath × List UInt8) :=
  texts.map fun text => (directory.child text.1, Utf8.encode text.2)

theorem WritesAll.savedIn {between : FileTree} {directory : FilePath} {texts : List (Text × Text)}
    (h : WritesAll between after (contentsIn directory texts)) (hgrows : Grows before between)
    (hencoded : ∀ text ∈ texts, Utf8.surrogateFault? 0 text.2 = none)
    (hentry : ∀ text ∈ texts, FilePath.IsEntry text.1) (hdistinct : (texts.map (·.1)).Nodup) :
    SavedIn before after directory texts := by
  have hapart : (contentsIn directory texts).Pairwise fun c d =>
      ∀ place, between.locate c.1 = .ok place → between.locate d.1 ≠ .ok place := by
    refine List.pairwise_map.mpr ((List.pairwise_map.mp hdistinct).imp_of_mem ?_)
    intro text text' htext htext' hne place
    exact locate_child_ne (hentry text htext) (hentry text' htext') hne
  constructor
  · intro text htext
    exact holds_of_readBytes (hencoded text htext)
      (h.readBytes hapart _ (List.mem_map_of_mem htext))
  · intro place hplace
    rw [h.find?_of_ne fun content hcontent => ?_]
    · exact hgrows place
    · obtain ⟨text, htext, rfl⟩ := List.mem_map.mp hcontent
      exact mt h.locate_iff.mpr (hplace text htext)

end FileTree

end SampleTypes
