import Mathlib.Data.List.TakeWhile
import SampleTypes.Console.Markup
import SampleTypes.Proofs.Lists

/-!
# Escaped text can be shown

A marked-up text cannot be shown if a tag closes a style that is not open, and the tags may be anything
once a key of the sample is part of the text. `Markup.escape` puts a backslash before each tag and doubles
those that stand there, so an odd number of them stands before it. It brings no new tag about either, as
what it adds stands before an opening bracket or at the end. So **an escaped text can be shown wherever it
stands** (`Markup.showable_escape`).
-/

set_option autoImplicit false

namespace SampleTypes

/-! ## Styles -/

theorem Color.exists_ofWord {word : Text} (h : argument? "rgb" word.lowerCase = none) :
    ∃ color, ofWord word = .ok color := by
  have hmixed : isMixed word.lowerCase = .ok false := by rw [isMixed, h]; rfl
  rw [ofWord, hmixed]
  simp only [bind, Except.bind]
  split_ifs <;> exact ⟨_, rfl⟩

/-- Only the components of a color can fail to be read. -/
theorem ConsoleStyle.exists_define_singleton {word : Text}
    (h : Color.argument? "rgb" word.lowerCase.lowerCase = none) :
    ∃ style, define {} [word] = .ok style := by
  obtain ⟨color, hcolor⟩ := Color.exists_ofWord h
  rw [define]
  split_ifs
  · exact ⟨_, rfl⟩
  · exact ⟨_, rfl⟩
  · exact ⟨_, rfl⟩
  · split
    · exact ⟨_, rfl⟩
    · rw [hcolor]
      cases color <;> exact ⟨_, rfl⟩

theorem ConsoleStyle.exists_normalForm {word : Text} (hone : word.splitBlank = [word])
    (h : Color.argument? "rgb" word.lowerCase.lowerCase = none) :
    ∃ form, normalForm word = .ok form := by
  obtain ⟨style, hstyle⟩ := exists_define_singleton h
  rw [normalForm, hone, hstyle]
  split_ifs
  · exact ⟨_, rfl⟩
  · cases style <;> exact ⟨_, rfl⟩

namespace Markup

open List (replicate)

/-! ## Tags -/

/-- A tag: an opening bracket, what may follow it, and all up to the closing one. -/
def IsTag (tag : Text) : Prop :=
  ∃ c content, startsTag c = true ∧ (∀ x ∈ content, (x != opening && x != closing) = true) ∧
    tag = opening :: c :: (content ++ [closing])

theorem tag?_eq_some {t tag rest : Text} :
    tag? t = some (tag, rest) ↔ IsTag tag ∧ t = tag ++ rest := by
  constructor
  · intro h
    rcases t with _ | ⟨bracket, _ | ⟨c, t⟩⟩
    · cases h
    · cases h
    rw [tag?] at h
    split_ifs at h with hstart
    obtain ⟨rfl, hc⟩ : bracket = opening ∧ startsTag c = true := by simpa using hstart
    have hcontent := List.takeWhile_append_dropWhile (p := fun c => c != opening && c != closing)
      (l := t)
    simp only [drop_length_takeWhile] at h
    rcases hlast : t.dropWhile fun c => c != opening && c != closing with _ | ⟨last, rest'⟩ <;>
      rw [hlast] at h hcontent
    · cases h
    · simp only at h
      split_ifs at h with hclosing
      subst hclosing
      cases h
      refine ⟨⟨c, _, hc, fun x hx => ?_, rfl⟩, by simpa using hcontent.symm⟩
      exact List.mem_takeWhile_imp (p := fun c => c != opening && c != closing) hx
  · rintro ⟨⟨c, content, hc, hcontent, rfl⟩, rfl⟩
    have htake : (content ++ closing :: rest).takeWhile (fun c => c != opening && c != closing) =
        content := takeWhile_append_of_head? hcontent (by simp)
    simp [tag?, hc, htake]

theorem IsTag.tag? {tag : Text} (h : IsTag tag) (rest : Text) :
    tag? (tag ++ rest) = some (tag, rest) := tag?_eq_some.mpr ⟨h, rfl⟩

theorem IsTag.head? {tag : Text} (h : IsTag tag) (rest : Text) :
    ∀ c ∈ (tag ++ rest).head?, (c == backslash) = false := by
  obtain ⟨c, content, _, _, rfl⟩ := h
  simp [opening, backslash]

/-- What a text starts with, when it is cut into pieces. -/
inductive Start : Text → Prop where
  | nil : Start []
  | tag {n : Nat} {tag rest : Text} (h : IsTag tag) : Start (replicate n backslash ++ (tag ++ rest))
  | plain {c : CodePoint} {t : Text} (hc : (c == backslash) = false) (h : tag? (c :: t) = none) :
    Start (c :: t)
  | backslashes {n : Nat} {t : Text} (ht : ∀ c ∈ t.head?, (c == backslash) = false)
    (h : tag? t = none) : Start (replicate (n + 1) backslash ++ t)

theorem start (t : Text) : Start t := by
  have hall : t.takeWhile (· == backslash) =
      replicate (t.takeWhile (· == backslash)).length backslash :=
    List.eq_replicate_of_mem fun c hc => by simpa using List.mem_takeWhile_imp hc
  have hhead : ∀ c ∈ (t.dropWhile (· == backslash)).head?, (c == backslash) = false :=
    eq_false_of_mem_head?_dropWhile
  rw [← List.takeWhile_append_dropWhile (p := (· == backslash)) (l := t), hall]
  generalize (t.takeWhile (· == backslash)).length = n
  generalize t.dropWhile (· == backslash) = t at hhead
  rcases htag : Markup.tag? t with _ | ⟨tag, rest⟩
  · rcases n with _ | n
    · rcases t with _ | ⟨c, t⟩
      · exact .nil
      · exact .plain (hhead c rfl) htag
    · exact .backslashes hhead htag
  · obtain ⟨h, rfl⟩ := tag?_eq_some.mp htag
    exact .tag h

/-! ## Pieces -/

section Cut

variable {fuel n : Nat} {before t : Text}

theorem takeWhile_backslashes (ht : ∀ c ∈ t.head?, (c == backslash) = false) :
    (replicate n backslash ++ t).takeWhile (· == backslash) = replicate n backslash :=
  takeWhile_append_of_head? (by simp) ht

@[simp]
theorem cut_nil : cut fuel before [] = [.text before.reverse] := by cases fuel <;> rfl

theorem cut_tag {tag rest : Text} (h : IsTag tag) :
    cut (fuel + 1) before (replicate n backslash ++ (tag ++ rest)) =
      .text before.reverse :: .tag n tag :: cut fuel [] rest := by
  have htake := takeWhile_backslashes (n := n) (h.head? rest)
  rcases hcons : replicate n backslash ++ (tag ++ rest) with _ | ⟨c, t⟩
  · obtain ⟨c, content, _, _, rfl⟩ := h
    simp at hcons
  · rw [cut, ← hcons, htake]
    simp [h.tag? rest]

theorem cut_plain {c : CodePoint} (hc : (c == backslash) = false) (h : tag? (c :: t) = none) :
    cut (fuel + 1) before (c :: t) = cut fuel (c :: before) t := by
  rw [cut]
  simp [hc, h]

theorem cut_backslashes (ht : ∀ c ∈ t.head?, (c == backslash) = false) (h : tag? t = none) :
    cut (fuel + 1) before (replicate (n + 1) backslash ++ t) =
      cut fuel (replicate (n + 1) backslash ++ before) t := by
  have htake := takeWhile_backslashes (n := n + 1) ht
  rcases hcons : replicate (n + 1) backslash ++ t with _ | ⟨c, t'⟩
  · simp at hcons
  · rw [cut, ← hcons, htake]
    simp [h]

end Cut

/-! ## Texts that can be shown -/

section Shown

variable {opened : List Text} {position : Nat} {content : Text} {pieces : List Piece}

theorem exists_shownFrom_text
    (h : ∃ shown, shownFrom opened (position + content.length) pieces = .ok shown) :
    ∃ shown, shownFrom opened position (.text content :: pieces) = .ok shown := by
  obtain ⟨shown, h⟩ := h
  exact ⟨shownText content ++ shown, by rw [shownFrom, h]; rfl⟩

/-- A tag after an odd number of backslashes is text. -/
theorem exists_shownFrom_escapedTag (n : Nat)
    (h : ∃ shown, shownFrom opened (position + (2 * n + 1) + content.length) pieces = .ok shown) :
    ∃ shown, shownFrom opened position (.tag (2 * n + 1) content :: pieces) = .ok shown := by
  obtain ⟨shown, h⟩ := h
  have hodd : (2 * n + 1) % 2 = 1 := by omega
  simp only [shownFrom, hodd, if_true, h]
  exact ⟨_, rfl⟩

theorem exists_shownFrom_tag {opened' : List Text} (hfollow : followTag opened content position = .ok opened')
    (h : ∃ shown, shownFrom opened' (position + content.length) pieces = .ok shown) :
    ∃ shown, shownFrom opened position (.tag 0 content :: pieces) = .ok shown := by
  obtain ⟨shown, h⟩ := h
  refine ⟨shown, ?_⟩
  simp only [shownFrom, Nat.add_zero, hfollow]
  simp [bind, Except.bind, h, pure, Except.pure]

end Shown

/-- A text that can be shown while styles are open, wherever it stands. -/
def Showable (opened : List Text) (t : Text) : Prop :=
  ∀ fuel before position, ∃ shown, shownFrom opened position (cut fuel before t) = .ok shown

namespace Showable

variable {opened : List Text} {t : Text}

theorem shownFrom_stop (before : Text) (position : Nat) :
    ∃ shown, shownFrom opened position [.text before.reverse] = .ok shown :=
  exists_shownFrom_text ⟨[], rfl⟩

theorem nil : Showable opened [] := by
  intro fuel before position
  rw [cut_nil]
  exact shownFrom_stop before position

theorem plain (ht : Showable opened t) {c : CodePoint} (hc : (c == backslash) = false)
    (h : tag? (c :: t) = none) : Showable opened (c :: t) := by
  intro fuel before position
  rcases fuel with _ | fuel
  · exact shownFrom_stop before position
  · rw [cut_plain hc h]
    exact ht fuel _ position

theorem backslashes (ht : Showable opened t) (hhead : ∀ c ∈ t.head?, (c == backslash) = false)
    (h : tag? t = none) (n : Nat) : Showable opened (replicate n backslash ++ t) := by
  rcases n with _ | n
  · exact ht
  intro fuel before position
  rcases fuel with _ | fuel
  · exact shownFrom_stop before position
  · rw [cut_backslashes hhead h]
    exact ht fuel _ position

theorem escapedTag (ht : Showable opened t) {tag : Text} (htag : IsTag tag) (n : Nat) :
    Showable opened (replicate (2 * n + 1) backslash ++ (tag ++ t)) := by
  intro fuel before position
  rcases fuel with _ | fuel
  · exact shownFrom_stop before position
  · rw [cut_tag htag]
    exact exists_shownFrom_text (exists_shownFrom_escapedTag n (ht fuel [] _))

/-- A tag that opens a style, or closes one that is open. -/
theorem tag {opened' : List Text} (ht : Showable opened' t) {tag : Text} (htag : IsTag tag)
    (hfollow : ∀ position, followTag opened tag position = .ok opened') :
    Showable opened (tag ++ t) := by
  intro fuel before position
  rcases fuel with _ | fuel
  · exact shownFrom_stop before position
  · have hcut : cut (fuel + 1) before (tag ++ t) = _ := cut_tag (n := 0) htag
    rw [hcut]
    exact exists_shownFrom_text (exists_shownFrom_tag (hfollow _) (ht fuel [] _))

/-- Text without brackets and backslashes before one that can be shown. -/
theorem unmarked (ht : Showable opened t) {u : Text}
    (hu : ∀ c ∈ u, c ≠ opening ∧ c ≠ Markup.backslash) : Showable opened (u ++ t) := by
  induction u with
  | nil => exact ht
  | cons c u ih =>
    obtain ⟨⟨hopening, hbackslash⟩, hu⟩ := List.forall_mem_cons.mp hu
    refine (ih hu).plain (beq_false_of_ne hbackslash) ?_
    rcases htag : tag? (c :: (u ++ t)) with _ | ⟨tag, rest⟩
    · rfl
    · obtain ⟨⟨_, _, _, _, rfl⟩, heq⟩ := tag?_eq_some.mp htag
      exact absurd (List.cons.inj heq).1 hopening

end Showable

/-- A pair of tags that open and close the style of a word. -/
structure Encloses (start stop word : Text) : Prop where
  start : tag? start = some (start, []) ∧ tagName start = word
  stop : tag? stop = some (stop, []) ∧ tagName stop = .scalar '/' :: word
  whole : word.splitBlank = [word] ∧ Text.trim word = word ∧ word ≠ [] ∧
    word.head? ≠ some (.scalar '/')
  color : Color.argument? "rgb" word.lowerCase.lowerCase = none

namespace Encloses

variable {start stop word : Text}

theorem exists_followTag (h : Encloses start stop word) : ∃ form, ∀ opened position,
    followTag opened start position = .ok (form :: opened) ∧
      followTag (form :: opened) stop position = .ok opened := by
  obtain ⟨hone, htrim, hne, hslash⟩ := h.whole
  obtain ⟨form, hform⟩ := ConsoleStyle.exists_normalForm hone h.color
  have hname : normalName word = .ok form := by rw [normalName, hform]
  refine ⟨form, fun opened position => ⟨?_, ?_⟩⟩
  · rw [followTag.eq_def, h.start.2]
    split
    · exact absurd rfl hslash
    · rw [hname]
      rfl
  · rw [followTag, h.stop.2]
    have hfull : word.isEmpty = false := by simpa using hne
    simp [htrim, hfull, hname, bind, Except.bind]

/-- Unmarked text in a style, before text that can be shown. -/
theorem showable (h : Encloses start stop word) {opened : List Text} {u t : Text}
    (hu : ∀ c ∈ u, c ≠ opening ∧ c ≠ backslash) (ht : Showable opened t) :
    Showable opened (start ++ (u ++ (stop ++ t))) := by
  obtain ⟨form, hfollow⟩ := h.exists_followTag
  have hstart := (tag?_eq_some.mp h.start.1).1
  have hstop := (tag?_eq_some.mp h.stop.1).1
  have hclosed : Showable (form :: opened) (stop ++ t) :=
    ht.tag hstop fun position => (hfollow opened position).2
  exact (hclosed.unmarked hu).tag hstart fun position => (hfollow opened position).1

end Encloses

theorem encloses_yellow : Encloses "[yellow]" "[/yellow]" "yellow" :=
  ⟨by decide, by decide, by decide, by decide⟩

theorem encloses_red : Encloses "[red]" "[/red]" "red" := ⟨by decide, by decide, by decide, by decide⟩

theorem encloses_dim : Encloses "[dim]" "[/dim]" "dim" := ⟨by decide, by decide, by decide, by decide⟩

theorem exists_plain {t : Text} (h : Showable [] t) : ∃ shown, plain t = .ok shown := by
  obtain ⟨shown, hshown⟩ := h (2 * t.length + 1) [] 0
  exact ⟨_, by rw [plain, pieces, hshown]; rfl⟩

/-! ## Escaped texts -/

/-- A text that is cut into pieces with fuel, and escaped. -/
def escapedWith (fuel : Nat) (t : Text) : Text := (cut fuel [] t).flatMap Piece.escaped

section Escaped

variable {fuel n : Nat} {t tag : Text}

theorem flatMap_escaped_cut (fuel : Nat) (before t : Text) :
    (cut fuel before t).flatMap Piece.escaped = before.reverse ++ escapedWith fuel t := by
  induction fuel generalizing before t with
  | zero => simp [escapedWith, cut, Piece.escaped]
  | succ fuel ih =>
    cases start t with
    | nil => simp [escapedWith, Piece.escaped]
    | tag htag => simp [escapedWith, cut_tag htag, Piece.escaped]
    | plain hc h =>
      rw [escapedWith, cut_plain hc h, cut_plain hc h, ih, ih]
      simp
    | backslashes ht h =>
      rw [escapedWith, cut_backslashes ht h, cut_backslashes ht h, ih, ih]
      simp

@[simp]
theorem escapedWith_zero : escapedWith 0 t = [] := by simp [escapedWith, cut, Piece.escaped]

@[simp]
theorem escapedWith_nil : escapedWith fuel [] = [] := by simp [escapedWith, Piece.escaped]

theorem escapedWith_tag (htag : IsTag tag) (t : Text) :
    escapedWith (fuel + 1) (replicate n backslash ++ (tag ++ t)) =
      replicate (2 * n + 1) backslash ++ (tag ++ escapedWith fuel t) := by
  simp [escapedWith, cut_tag htag, Piece.escaped]

theorem escapedWith_plain {c : CodePoint} (hc : (c == backslash) = false)
    (h : tag? (c :: t) = none) : escapedWith (fuel + 1) (c :: t) = c :: escapedWith fuel t := by
  rw [escapedWith, cut_plain hc h, flatMap_escaped_cut]
  rfl

theorem escapedWith_backslashes (ht : ∀ c ∈ t.head?, (c == backslash) = false) (h : tag? t = none) :
    escapedWith (fuel + 1) (replicate (n + 1) backslash ++ t) =
      replicate (n + 1) backslash ++ escapedWith fuel t := by
  rw [escapedWith, cut_backslashes ht h, flatMap_escaped_cut]
  simp

theorem not_prefix_backslashes {u : Text} (hlast : u.getLast? = some closing) (m : Nat) :
    ¬ u <+: replicate m backslash := by
  intro h
  have hmem := h.subset (List.mem_of_getLast? hlast)
  exact absurd (List.eq_of_mem_replicate hmem) (by decide)

/-- Up to a closing bracket without an opening one before it, an escaped text is the text itself. -/
theorem prefix_of_prefix_escapedWith {u : Text} {j : Nat} (hlast : u.getLast? = some closing)
    (hopen : opening ∉ u) (h : u <+: escapedWith fuel t ++ replicate j backslash) : u <+: t := by
  induction fuel generalizing t u with
  | zero => exact absurd (by simpa using h) (not_prefix_backslashes hlast j)
  | succ fuel ih =>
    cases start t with
    | nil => exact absurd (by simpa using h) (not_prefix_backslashes hlast j)
    | @tag n tag rest htag =>
      -- The opening bracket of the tag comes before any closing one.
      rw [escapedWith_tag htag] at h
      obtain ⟨c, content, _, _, rfl⟩ := htag
      have hwhole : replicate (2 * n + 1) backslash ++ [opening] <+:
          replicate (2 * n + 1) backslash ++ (opening :: c :: (content ++ [closing]) ++
            escapedWith fuel rest) ++ replicate j backslash := by simp
      rcases List.prefix_or_prefix_of_prefix h hwhole with hshort | hlong
      · have hmem := hshort.subset (List.mem_of_getLast? hlast)
        simp [closing, opening, backslash] at hmem
      · exact absurd (hlong.subset (by simp)) hopen
    | @plain c t hc htag =>
      rw [escapedWith_plain hc htag] at h
      rcases u with _ | ⟨d, u⟩
      · exact List.nil_prefix
      obtain ⟨rfl, hrest⟩ := List.cons_prefix_cons.mp h
      rw [List.cons_prefix_cons]
      refine ⟨rfl, ?_⟩
      rcases u with _ | ⟨e, u⟩
      · exact List.nil_prefix
      · exact ih (by rwa [List.getLast?_cons_cons] at hlast) (fun hm => hopen (.tail _ hm)) hrest
    | @backslashes n t ht htag =>
      rw [escapedWith_backslashes ht htag, List.append_assoc] at h
      rcases List.prefix_or_prefix_of_prefix h (List.prefix_append _ _) with hshort | ⟨w, rfl⟩
      · exact absurd hshort (not_prefix_backslashes hlast _)
      rw [List.prefix_append_right_inj] at h ⊢
      rcases w with _ | ⟨e, w⟩
      · exact List.nil_prefix
      · rw [List.getLast?_append_of_ne_nil _ (List.cons_ne_nil e w)] at hlast
        exact ih hlast (fun hm => hopen (List.mem_append_right _ hm)) h

/-- Escaping brings no tag about. -/
theorem tag?_escapedWith {c : CodePoint} {j : Nat} (h : tag? (c :: t) = none) :
    tag? (c :: (escapedWith fuel t ++ replicate j backslash)) = none := by
  rcases htag : tag? (c :: (escapedWith fuel t ++ replicate j backslash)) with _ | ⟨tag, rest⟩
  · rfl
  exfalso
  obtain ⟨⟨c', content, hc', hcontent, rfl⟩, heq⟩ := tag?_eq_some.mp htag
  obtain ⟨rfl, heq'⟩ := List.cons.inj heq
  have hopen : opening ∉ c' :: (content ++ [closing]) := by
    have hfirst : c' ≠ opening := by
      rintro rfl
      exact absurd hc' (by decide)
    have hrest : opening ∉ content := fun hm => absurd (hcontent _ hm) (by simp)
    have hlast : opening ≠ closing := by decide
    simp [hfirst.symm, hrest, hlast]
  have hlast : (c' :: (content ++ [closing])).getLast? = some closing := by
    rw [← List.cons_append, List.getLast?_concat]
  obtain ⟨rest', hrest'⟩ := prefix_of_prefix_escapedWith hlast hopen ⟨rest, heq'.symm⟩
  have hfound := IsTag.tag? ⟨c', content, hc', hcontent, rfl⟩ rest'
  rw [List.cons_append, hrest', h] at hfound
  cases hfound

theorem showable_backslashes (opened : List Text) (n : Nat) :
    Showable opened (replicate n backslash) := by
  have hnil : Showable opened [] := .nil
  have h := hnil.backslashes (by simp) rfl n
  rwa [List.append_nil] at h

theorem showable_escapedWith (opened : List Text) (fuel : Nat) (t : Text) (j : Nat) :
    Showable opened (escapedWith fuel t ++ replicate j backslash) := by
  induction fuel generalizing t with
  | zero => simpa using showable_backslashes opened j
  | succ fuel ih =>
    cases start t with
    | nil => simpa using showable_backslashes opened j
    | tag htag =>
      rw [escapedWith_tag htag, List.append_assoc, List.append_assoc]
      exact (ih _).escapedTag htag _
    | plain hc htag =>
      rw [escapedWith_plain hc htag]
      exact (ih _).plain hc (tag?_escapedWith htag)
    | @backslashes n t ht htag =>
      rw [escapedWith_backslashes ht htag, List.append_assoc]
      have hrest := ih t
      rcases t with _ | ⟨c, t⟩
      · rw [escapedWith_nil, List.nil_append, ← List.replicate_add]
        exact showable_backslashes opened _
      rcases fuel with _ | fuel
      · rw [escapedWith_zero, List.nil_append, ← List.replicate_add]
        exact showable_backslashes opened _
      · have hc := ht c rfl
        rw [escapedWith_plain hc htag, List.cons_append] at hrest ⊢
        exact hrest.backslashes (by simpa using hc) (tag?_escapedWith htag) _

end Escaped

theorem exists_escape_eq (t : Text) :
    ∃ fuel j, escape t = escapedWith fuel t ++ replicate j backslash := by
  have hnone : (pieces t).flatMap Piece.escaped =
      escapedWith (2 * t.length + 1) t ++ replicate 0 backslash := (List.append_nil _).symm
  have hone : (pieces t).flatMap Piece.escaped ++ [backslash] =
      escapedWith (2 * t.length + 1) t ++ replicate 1 backslash := rfl
  refine ⟨2 * t.length + 1, ?_⟩
  rw [escape]
  split
  · split_ifs
    · exact ⟨1, hone⟩
    · exact ⟨0, hnone⟩
  · split_ifs
    · exact ⟨1, hone⟩
    · exact ⟨0, hnone⟩
  · exact ⟨0, hnone⟩

/-- An escaped text can be shown, whatever it holds and whatever is open where it stands. -/
theorem showable_escape (opened : List Text) (t : Text) : Showable opened (escape t) := by
  obtain ⟨fuel, j, heq⟩ := exists_escape_eq t
  rw [heq]
  exact showable_escapedWith opened fuel t j

end Markup

end SampleTypes
