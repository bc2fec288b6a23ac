import Mathlib.Data.List.Chain
import SampleTypes.Text.Lines

/-!
# Lines and layout

> **What is laid out already is left as it is** (`Text.Neat.tidy_ofLines`).

`Text.Neat` says what the final layout is: no line ends in white space, no two blank lines follow
each other, none stands at either end. Blocks of neat lines with a blank line between them are neat
again, so a document is neat if its blocks are. The one thing that the layout ever removes from
generated code is a blank line beside another, and it then makes no difference which of the two is
removed (`Text.Neat.tidy_doubled`).
-/

set_option autoImplicit false

namespace SampleTypes

open CodePoint (lineFeed)

namespace Text

/-! ## Lines of a text -/

/-- One more code point goes to the first piece, unless it is a separator and opens a new one. -/
theorem splitOn_cons (separator c : CodePoint) (t : Text) : splitOn separator (c :: t) =
    if c = separator then [] :: splitOn separator t
    else (splitOn separator t).modifyHead (c :: ·) := by
  unfold splitOn
  rw [List.foldr_cons]
  rcases List.foldr _ _ t with ⟨piece, later⟩
  dsimp only
  split <;> rfl

theorem splitOn_eq_splitOn (separator : CodePoint) (t : Text) :
    splitOn separator t = List.splitOn separator t := by
  induction t with
  | nil => rfl
  | cons c t ih =>
    rw [splitOn_cons, ih, List.splitOn, List.splitOn, List.splitOnP_cons_eq_if_modifyHead]
    simp only [beq_iff_eq]

theorem notMem_of_mem_splitOn {separator : CodePoint} {t : Text} :
    ∀ l ∈ splitOn separator t, separator ∉ l := by
  induction t with
  | nil => simp [splitOn]
  | cons c t ih =>
    rw [splitOn_cons]
    split
    · exact List.forall_mem_cons.mpr ⟨List.not_mem_nil, ih⟩
    · rename_i hc
      cases hpieces : splitOn separator t with
      | nil => simp
      | cons piece later =>
        rw [hpieces] at ih
        obtain ⟨hpiece, hlater⟩ := List.forall_mem_cons.mp ih
        refine List.forall_mem_cons.mpr ⟨?_, hlater⟩
        simp [hpiece, Ne.symm hc]

/-- No line holds a line feed. -/
theorem lineFeed_notMem_of_mem_lines {t : Text} : ∀ l ∈ t.lines, lineFeed ∉ l :=
  notMem_of_mem_splitOn

/-- A text has the lines of which it was made. -/
theorem lines_ofLines {ls : List Text} (hne : ls ≠ []) (h : ∀ l ∈ ls, lineFeed ∉ l) :
    lines (ofLines ls) = ls := by
  rw [lines, splitOn_eq_splitOn]
  exact List.splitOn_intercalate lineFeed h hne

theorem ofLines_cons {l : Text} {ls : List Text} (h : ls ≠ []) :
    ofLines (l :: ls) = l ++ lineFeed :: ofLines ls := by
  cases ls with
  | nil => exact absurd rfl h
  | cons m ls => simp [ofLines, join, List.intercalate]

theorem ofLines_append {as bs : List Text} (ha : as ≠ []) (hb : bs ≠ []) :
    ofLines (as ++ bs) = ofLines as ++ lineFeed :: ofLines bs := by
  induction as with
  | nil => exact absurd rfl ha
  | cons a as ih =>
    cases as with
    | nil =>
      rw [List.singleton_append, ofLines_cons hb]
      simp [ofLines, join]
    | cons a' as =>
      have hne : a' :: as ≠ [] := List.cons_ne_nil a' as
      rw [List.cons_append, ofLines_cons (by simp), ih hne, ofLines_cons hne, List.append_assoc,
        List.cons_append]

/-- A text that ends its last line is followed by an empty one. -/
theorem ofLines_snoc_nil {as : List Text} (ha : as ≠ []) :
    ofLines (as ++ [[]]) = ofLines as ++ [lineFeed] := ofLines_append ha (by simp)

/-- Blocks of lines with an empty line between them. -/
theorem ofLines_intercalate {blocks : List (List Text)} (h : ∀ b ∈ blocks, b ≠ []) :
    ofLines ([[]].intercalate blocks) = join [lineFeed, lineFeed] (blocks.map ofLines) := by
  induction blocks with
  | nil => rfl
  | cons b blocks ih =>
    obtain ⟨hb, hblocks⟩ := List.forall_mem_cons.mp h
    cases blocks with
    | nil => simp [join]
    | cons b' blocks =>
      have hrest : [[]].intercalate (b' :: blocks) ≠ [] := by
        cases blocks with
        | nil => simpa using hblocks b' (by simp)
        | cons b'' blocks => simp [hblocks b' (by simp)]
      have hjoin : join [lineFeed, lineFeed] ((b :: b' :: blocks).map ofLines) =
          ofLines b ++ lineFeed :: lineFeed :: join [lineFeed, lineFeed] ((b' :: blocks).map ofLines) := by
        simp [join]
      rw [hjoin, ← ih hblocks, List.intercalate_cons_cons, List.append_assoc,
        ofLines_append hb (by simp), List.singleton_append, ofLines_cons hrest]
      rfl

/-- Which lines are kept of blocks with an empty line between them, when that is not kept. -/
theorem filter_intercalate {p : Text → Bool} (hp : p [] = false) (blocks : List (List Text)) :
    ([[]].intercalate blocks).filter p = blocks.flatMap (List.filter p) := by
  induction blocks with
  | nil => rfl
  | cons b blocks ih =>
    cases blocks with
    | nil => simp
    | cons b' blocks =>
      rw [List.intercalate_cons_cons, List.filter_append, List.filter_append, ih,
        List.flatMap_cons (x := b), List.filter_cons_of_neg (by simp [hp]), List.filter_nil,
        List.append_nil]

/-! ## Line by line -/

theorem trimEnd_snoc (l : Text) {c : CodePoint} (h : c.isBlank = false) :
    trimEnd (l ++ [c]) = l ++ [c] := by
  simp [trimEnd, h]

theorem squeeze_cons (l : Text) (ls : List Text) :
    squeeze (l :: ls) =
      if l.isEmpty && (squeeze ls).head? == some [] then squeeze ls else l :: squeeze ls := rfl

theorem squeeze_of_sparse {ls : List Text} (h : ls.IsChain fun l m => l = [] → m ≠ []) :
    squeeze ls = ls := by
  induction h with
  | nil => rfl
  | singleton l => cases l <;> rfl
  | @cons_cons l m ls hlm _ ih =>
    rw [squeeze_cons, ih, if_neg]
    simp only [List.head?_cons, Bool.and_eq_true, List.isEmpty_iff, beq_iff_eq, Option.some.injEq,
      not_and]
    exact hlm

/-- Of two empty lines that follow each other, one goes. -/
theorem squeeze_doubled (as bs : List Text) :
    squeeze (as ++ [] :: [] :: bs) = squeeze (as ++ [] :: bs) := by
  induction as with
  | nil =>
    have hhead : (squeeze ([] :: bs)).head? = some [] := by
      rw [squeeze_cons]
      split
      · rename_i h
        simpa using h
      · rfl
    rw [List.nil_append, squeeze_cons, hhead]
    rfl
  | cons a as ih => rw [List.cons_append, squeeze_cons, ih, List.cons_append, squeeze_cons]

theorem trimLines_of_ends {ls : List Text} (hopens : ls.head? ≠ some [])
    (hcloses : ls.getLast? ≠ some []) : trimLines ls = ls := by
  have hdrop : ∀ ms : List Text, ms.head? ≠ some [] → ms.dropWhile List.isEmpty = ms := by
    intro ms hms
    cases ms with
    | nil => rfl
    | cons m ms =>
      cases m with
      | nil => exact absurd rfl hms
      | cons c m => rfl
  rw [trimLines, hdrop ls hopens, hdrop ls.reverse (by rwa [List.head?_reverse]),
    List.reverse_reverse]

/-! ## The final layout -/

/-- Lines in their final layout. -/
structure Neat (ls : List Text) : Prop where
  nonempty : ls ≠ []
  unbroken : ∀ l ∈ ls, lineFeed ∉ l
  trimmed : ∀ l ∈ ls, trimEnd l = l
  sparse : ls.IsChain fun l m => l = [] → m ≠ []
  opens : ls.head? ≠ some []
  closes : ls.getLast? ≠ some []

namespace Neat

variable {ls as bs : List Text}

theorem lines_ofLines (h : Neat ls) : lines (ofLines ls) = ls :=
  Text.lines_ofLines h.nonempty h.unbroken

/-- What is laid out already is left as it is. -/
theorem tidy_ofLines (h : Neat ls) : tidy (ofLines ls) = ofLines ls := by
  have htrim : ls.map trimEnd = ls := by
    conv_rhs => rw [← List.map_id ls]
    exact List.map_congr_left h.trimmed
  rw [tidy, h.lines_ofLines, htrim, squeeze_of_sparse h.sparse, trimLines_of_ends h.opens h.closes]

/-- Neat blocks with an empty line between them. -/
theorem append (ha : Neat as) (hb : Neat bs) : Neat (as ++ [] :: bs) := by
  have hmem : ∀ l ∈ as ++ [] :: bs, l ∈ as ∨ l = [] ∨ l ∈ bs := by
    intro l hl
    simpa using hl
  refine ⟨by simp, ?_, ?_, ?_, ?_, ?_⟩
  · intro l hl
    rcases hmem l hl with hl | rfl | hl
    · exact ha.unbroken l hl
    · exact List.not_mem_nil
    · exact hb.unbroken l hl
  · intro l hl
    rcases hmem l hl with hl | rfl | hl
    · exact ha.trimmed l hl
    · rfl
    · exact hb.trimmed l hl
  · refine List.isChain_append.mpr ⟨ha.sparse, List.isChain_cons.mpr ⟨?_, hb.sparse⟩, ?_⟩
    · intro m hm _ hempty
      exact hb.opens (hempty ▸ hm)
    · intro l hl m _ hempty
      exact absurd (hempty ▸ hl) ha.closes
  · cases as with
    | nil => exact absurd rfl ha.nonempty
    | cons a as => exact ha.opens
  · rw [List.getLast?_append_of_ne_nil _ (by simp), List.getLast?_cons]
    intro hlast
    cases hl : bs.getLast? with
    | none => exact hb.nonempty (List.getLast?_eq_none_iff.mp hl)
    | some l =>
      rw [hl] at hlast
      exact hb.closes (hl.trans hlast)

/-- Any number of neat blocks. -/
theorem intercalate {blocks : List (List Text)} (h : ∀ b ∈ blocks, Neat b) (hne : blocks ≠ []) :
    Neat ([[]].intercalate blocks) := by
  induction blocks with
  | nil => exact absurd rfl hne
  | cons b blocks ih =>
    obtain ⟨hb, hblocks⟩ := List.forall_mem_cons.mp h
    cases blocks with
    | nil => simpa using hb
    | cons b' blocks =>
      rw [List.intercalate_cons_cons, List.append_assoc]
      exact hb.append (ih hblocks (by simp))

/-- An empty line too many is removed. -/
theorem tidy_doubled (h : Neat (as ++ [] :: bs)) :
    tidy (ofLines (as ++ [] :: [] :: bs)) = ofLines (as ++ [] :: bs) := by
  have hunbroken : ∀ l ∈ as ++ [] :: [] :: bs, lineFeed ∉ l := by
    intro l hl
    refine h.unbroken l ?_
    simp only [List.mem_append, List.mem_cons] at hl ⊢
    tauto
  have htrim : (as ++ [] :: [] :: bs).map trimEnd = as ++ [] :: [] :: bs := by
    conv_rhs => rw [← List.map_id (as ++ [] :: [] :: bs)]
    refine List.map_congr_left fun l hl => h.trimmed l ?_
    simp only [List.mem_append, List.mem_cons] at hl ⊢
    tauto
  rw [tidy, Text.lines_ofLines (by simp) hunbroken, htrim, squeeze_doubled,
    squeeze_of_sparse h.sparse, trimLines_of_ends h.opens h.closes]

theorem ofLines_ne_nil (h : Neat ls) : ofLines ls ≠ [] := by
  cases ls with
  | nil => exact absurd rfl h.nonempty
  | cons l ls =>
    cases ls with
    | nil => simpa [ofLines, join, eq_comm] using h.opens
    | cons m ls =>
      rw [ofLines_cons (by simp)]
      simp

/-- Blocks after a header which ends its last line, so that two empty lines follow it: one goes. -/
theorem tidy_join_header {header : List Text} {blocks : List (List Text)} (hh : Neat header)
    (hb : ∀ b ∈ blocks, Neat b) (hne : blocks ≠ []) :
    tidy (join [lineFeed, lineFeed] ((ofLines header ++ [lineFeed]) :: blocks.map ofLines)) =
      ofLines ([[]].intercalate (header :: blocks)) := by
  have hblocks : Neat ([[]].intercalate blocks) := intercalate hb hne
  have hjoin : join [lineFeed, lineFeed] ((ofLines header ++ [lineFeed]) :: blocks.map ofLines) =
      ofLines (header ++ [] :: [] :: [[]].intercalate blocks) := by
    rw [join, List.intercalate_cons_of_ne_nil (by simpa using hne), ← join,
      ← ofLines_intercalate fun b h => (hb b h).nonempty, ofLines_append hh.nonempty (by simp),
      ofLines_cons (by simp), ofLines_cons hblocks.nonempty]
    simp
  rw [hjoin, (hh.append hblocks).tidy_doubled, List.intercalate_cons_of_ne_nil hne,
    List.append_assoc]
  rfl

end Neat

end Text

end SampleTypes
