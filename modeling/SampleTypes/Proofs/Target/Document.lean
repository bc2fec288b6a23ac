import SampleTypes.Proofs.Target.Neat

/-!
# Documents and files

A document is the blocks of its lines with an empty line between each two of them, and so is a file
(`Target.document_eq`, `Target.file_eq`): **the final layout changes nothing in any block**. All
that it ever does is to drop one line end after a header. And the lines of a document that open a
declaration are those of its declarations (`Target.filter_documentLines`).

Of the imports in the header of classes only that of lists depends on the declarations.
-/

set_option autoImplicit false

namespace SampleTypes

open CodePoint (lineFeed)
open Text (Neat IsLine)

namespace Target

variable {settings : Settings} {indent : Text}

/-! ## Blocks with an empty line between them -/

/-- The header of a document as a block. -/
def openingBlocks (target : Target) (settings : Settings) (ds : List Declaration) :
    List (List Text) :=
  match target with
  | typescript => []
  | java => [headerLines settings (classImports settings ds)]

/-- What stands before the declaration in its file. -/
def prefixBlocks (target : Target) (settings : Settings) (d : Declaration) : List (List Text) :=
  match target with
  | typescript => if interfaceImports d = [] then [] else
      [(interfaceImports d).map interfaceImportLine]
  | java => java.openingBlocks settings [d]

/-- The lines of a document. -/
def documentLines (target : Target) (settings : Settings) (indent : Text) (ds : List Declaration) :
    List Text :=
  [[]].intercalate (target.openingBlocks settings ds ++ ds.map (target.unitLines settings indent))

/-- The lines of the file of a declaration. -/
def fileLines (target : Target) (settings : Settings) (indent : Text) (d : Declaration) :
    List Text :=
  [[]].intercalate (target.prefixBlocks settings d ++ [target.unitLines settings indent d])

theorem neat_of_mem_openingBlocks {target : Target} (hs : settings.Unbroken)
    {ds : List Declaration} {b : List Text} (hb : b ∈ target.openingBlocks settings ds) : Neat b := by
  cases target with
  | typescript => exact absurd hb (by simp [openingBlocks])
  | java =>
    rw [List.mem_singleton.mp hb]
    exact neat_headerLines hs ds

theorem neat_of_mem_prefixBlocks {target : Target} (hs : settings.Unbroken) {d : Declaration}
    (hd : d.Clean) {b : List Text} (hb : b ∈ target.prefixBlocks settings d) : Neat b := by
  cases target with
  | typescript =>
    rw [prefixBlocks] at hb
    split at hb
    · exact absurd hb (by simp)
    · rename_i hne
      rw [List.mem_singleton.mp hb]
      exact neat_interfaceImportLines hd hne
  | java =>
    have hb : b ∈ java.openingBlocks settings [d] := hb
    exact neat_of_mem_openingBlocks hs hb

theorem neat_of_mem_units {target : Target} (hs : settings.Unbroken)
    (hindent : settings.indent = .ok indent) {ds : List Declaration} (hclean : ∀ d ∈ ds, d.Clean)
    {b : List Text} (hb : b ∈ ds.map (target.unitLines settings indent)) : Neat b := by
  obtain ⟨d, hd, rfl⟩ := List.mem_map.mp hb
  exact neat_unitLines target hs hindent (hclean d hd)

theorem neat_documentLines (target : Target) (hs : settings.Unbroken)
    (hindent : settings.indent = .ok indent) {ds : List Declaration} (hds : ds ≠ [])
    (hclean : ∀ d ∈ ds, d.Clean) : Neat (target.documentLines settings indent ds) := by
  refine Neat.intercalate (fun b hb => ?_) (by simp [hds])
  rcases List.mem_append.mp hb with hb | hb
  · exact neat_of_mem_openingBlocks hs hb
  · exact neat_of_mem_units hs hindent hclean hb

/-- A document, block by block. -/
theorem ofLines_documentLines (target : Target) (hs : settings.Unbroken)
    (hindent : settings.indent = .ok indent) {ds : List Declaration} (hclean : ∀ d ∈ ds, d.Clean) :
    Text.ofLines (target.documentLines settings indent ds) =
      Text.join unitSeparator ((target.openingBlocks settings ds).map Text.ofLines ++
        ds.map fun d => Text.ofLines (target.unitLines settings indent d)) := by
  rw [documentLines, Text.ofLines_intercalate, List.map_append, List.map_map]
  · rfl
  · intro b hb
    rcases List.mem_append.mp hb with hb | hb
    · exact (neat_of_mem_openingBlocks hs hb).nonempty
    · exact (neat_of_mem_units hs hindent hclean hb).nonempty

/-- A file, block by block. -/
theorem ofLines_fileLines (target : Target) (hs : settings.Unbroken)
    (hindent : settings.indent = .ok indent) {d : Declaration} (hd : d.Clean) :
    Text.ofLines (target.fileLines settings indent d) =
      Text.join unitSeparator ((target.prefixBlocks settings d).map Text.ofLines ++
        [Text.ofLines (target.unitLines settings indent d)]) := by
  rw [fileLines, Text.ofLines_intercalate, List.map_append]
  · rfl
  · intro b hb
    rcases List.mem_append.mp hb with hb | hb
    · exact (neat_of_mem_prefixBlocks hs hd hb).nonempty
    · rw [List.mem_singleton.mp hb]
      exact (neat_unitLines target hs hindent hd).nonempty

/-- Code that is there for one declaration is there for all, and what is missing for one is missing for
all: the indentation. -/
theorem mapM_unit_eq (target : Target) {ds : List Declaration} (hds : ds ≠ []) :
    ds.mapM (target.unit settings) =
      match settings.indent with
      | .ok indent => .ok (ds.map fun d => Text.ofLines (target.unitLines settings indent d))
      | .error fault => .error (.indent fault) := by
  cases hindent : settings.indent with
  | ok indent =>
    refine Template.mapM_eq_ok fun d _ => ?_
    rw [unit_eq, hindent]
  | error fault =>
    cases ds with
    | nil => exact absurd rfl hds
    | cons d ds =>
      rw [List.mapM_cons, unit_eq, hindent]
      rfl

/-- What stands before the declarations of a document ends with a line end too many. -/
theorem header_eq (target : Target) (settings : Settings) (ds : List Declaration) :
    target.header settings ds =
      .ok ((target.openingBlocks settings ds).flatMap fun b => Text.ofLines b ++ [lineFeed]) := by
  cases target with
  | typescript => rfl
  | java =>
    rw [header, render_header]
    simp [openingBlocks]

/-- The layout of a document takes away nothing but the line end too many. -/
theorem tidy_document (target : Target) (hs : settings.Unbroken)
    (hindent : settings.indent = .ok indent) {ds : List Declaration} (hds : ds ≠ [])
    (hclean : ∀ d ∈ ds, d.Clean) :
    (Text.join unitSeparator (((target.openingBlocks settings ds).flatMap
        (fun b => Text.ofLines b ++ [lineFeed]) ::
        ds.map fun d => Text.ofLines (target.unitLines settings indent d)).filter
          fun unit => !unit.isEmpty)).tidy =
      Text.ofLines (target.documentLines settings indent ds) := by
  have hfilter : (ds.map fun d => Text.ofLines (target.unitLines settings indent d)).filter
      (fun unit => !unit.isEmpty) = (ds.map (target.unitLines settings indent)).map Text.ofLines := by
    rw [List.map_map, List.filter_eq_self.mpr]
    · rfl
    · intro u hu
      obtain ⟨d, hd, rfl⟩ := List.mem_map.mp hu
      simpa using (neat_unitLines target hs hindent (hclean d hd)).ofLines_ne_nil
  cases target with
  | typescript =>
    -- The header is empty, and no empty unit is joined to the others.
    rw [List.filter_cons_of_neg (by simp [openingBlocks]), hfilter,
      ← (neat_documentLines typescript hs hindent hds hclean).tidy_ofLines,
      ofLines_documentLines typescript hs hindent hclean, List.map_map]
    rfl
  | java =>
    -- The header has ended its last line already, so two empty lines follow it.
    have hheader : (java.openingBlocks settings ds).flatMap (fun b => Text.ofLines b ++ [lineFeed]) =
        Text.ofLines (headerLines settings (classImports settings ds)) ++ [lineFeed] := by
      simp [openingBlocks]
    rw [hheader, List.filter_cons_of_pos (by simp), hfilter]
    exact (neat_headerLines hs ds).tidy_join_header
      (fun _ hb => neat_of_mem_units hs hindent hclean hb) (by simpa using hds)

/-- **A document is the header and the code of its declarations, with an empty line between each two of
them.** -/
theorem document_eq (target : Target) (hs : settings.Unbroken) {ds : List Declaration}
    (hds : ds ≠ []) (hclean : ∀ d ∈ ds, d.Clean) :
    target.document settings ds =
      match settings.indent with
      | .ok indent => .ok (Text.ofLines (target.documentLines settings indent ds))
      | .error fault => .error (.indent fault) := by
  rw [document, header_eq, mapM_unit_eq target hds]
  cases hindent : settings.indent with
  | ok indent => exact congrArg Except.ok (tidy_document target hs hindent hds hclean)
  | error fault => rfl

theorem tidy_interfaceFile (hs : settings.Unbroken) (hindent : settings.indent = .ok indent)
    {d : Declaration} (hd : d.Clean) :
    Text.tidy ((interfaceImports d).flatMap (fun name => interfaceImportLine name ++ [lineFeed]) ++
        ((if (interfaceImports d).isEmpty then [] else [lineFeed]) ++
          Text.ofLines (typescript.unitLines settings indent d))) =
      Text.ofLines (typescript.fileLines settings indent d) := by
  have hneat := neat_unitLines typescript hs hindent hd
  rw [fileLines, prefixBlocks]
  by_cases hempty : interfaceImports d = []
  · simp only [hempty, List.flatMap_nil, List.isEmpty_nil, if_true, List.nil_append,
      List.intercalate_singleton]
    exact hneat.tidy_ofLines
  · have hlines := neat_interfaceImportLines hd hempty
    have hended : (interfaceImports d).flatMap
        (fun name => interfaceImportLine name ++ [lineFeed]) =
          Text.ofLines ((interfaceImports d).map interfaceImportLine) ++ [lineFeed] := by
      rw [← Text.flatMap_ended hlines.nonempty, List.flatMap_map]
    have htext := (hlines.append hneat).tidy_ofLines
    rw [Text.ofLines_append hlines.nonempty (by simp), Text.ofLines_cons hneat.nonempty] at htext
    rw [hended, if_neg (by simpa using hempty), if_neg hempty, List.append_assoc]
    refine htext.trans ?_
    rw [List.singleton_append, List.intercalate_cons_cons, List.intercalate_singleton,
      List.append_assoc, List.singleton_append, Text.ofLines_append hlines.nonempty (by simp),
      Text.ofLines_cons hneat.nonempty]

/-- **A file is what stands before its declaration, an empty line, and the same code.** -/
theorem file_eq (target : Target) (hs : settings.Unbroken) {d : Declaration} (hd : d.Clean) :
    target.file settings d =
      match settings.indent with
      | .ok indent => .ok (Text.ofLines (target.fileLines settings indent d))
      | .error fault => .error (.indent fault) := by
  cases target with
  | typescript =>
    rw [file, interfaceCode_eq]
    cases hindent : settings.indent with
    | ok indent => exact congrArg Except.ok (tidy_interfaceFile hs hindent hd)
    | error fault => rfl
  | java =>
    show java.document settings [d] = _
    rw [document_eq java hs (by simp) (by simpa using hd)]
    rfl

/-! ## Lines of one kind -/

/-- Which lines are kept of the code of a declaration, when annotations, empty lines and its end are
not. -/
theorem filter_unitLines_of (target : Target) {p : Text → Bool} (hempty : p [] = false)
    (hend : p ("\x7d" : Text) = false)
    (htags : ∀ tag ∈ classAnnotations settings, p (annotationLine tag) = false)
    (d : Declaration) :
    (target.unitLines settings indent d).filter p =
      [target.declarationLine settings d.name].filter p ++
        d.fields.flatMap fun field => (target.fieldLines indent field).filter p := by
  have hend : [("\x7d" : Text)].filter p = [] := List.filter_cons_of_neg (by simp [hend])
  cases target with
  | typescript =>
    rw [unitLines, ← List.singleton_append, List.filter_append, List.filter_append, hend,
      List.append_nil, List.filter_flatMap]
  | java =>
    have hannotations : ((classAnnotations settings).map annotationLine).filter p = [] := by
      refine List.filter_eq_nil_iff.mpr fun l hl => ?_
      obtain ⟨tag, htag, rfl⟩ := List.mem_map.mp hl
      rw [htags tag htag]
      simp
    rw [unitLines, Text.filter_intercalate hempty, List.flatMap_cons, List.filter_append,
      hannotations, List.flatMap_append, List.flatMap_map, List.flatMap_singleton, hend]
    simp

/-- Which lines are kept of the header of classes, when neither the package nor empty lines are. -/
theorem filter_headerLines_of {p : Text → Bool} (hempty : p [] = false)
    (hpackage : p (("package " : Text) ++ packageOf settings ++ (";" : Text)) = false)
    (imports : List Text) :
    (headerLines settings imports).filter p = (imports.map classImportLine).filter p := by
  rw [headerLines, List.filter_cons_of_neg (by rw [hpackage]; simp),
    List.filter_cons_of_neg (by rw [hempty]; simp)]

/-! ## Where declarations open -/

/-- Whether a line opens a declaration: it ends with a brace. -/
def opensDeclaration (l : Text) : Bool := l.getLast? == some (.scalar '\x7b')

theorem opensDeclaration_append {s t : Text} (ht : t ≠ []) :
    opensDeclaration (s ++ t) = opensDeclaration t := by
  rw [opensDeclaration, opensDeclaration, List.getLast?_append_of_ne_nil s ht]

theorem opensDeclaration_declarationLine (target : Target) (settings : Settings) (name : Text) :
    opensDeclaration (target.declarationLine settings name) = true := by
  cases target <;> exact opensDeclaration_append (by decide)

theorem filter_fieldLines (target : Target) (indent : Text) (field : Field) :
    (target.fieldLines indent field).filter opensDeclaration = [] := by
  refine List.filter_eq_nil_iff.mpr fun l hl => ?_
  rw [Bool.not_eq_true]
  cases target with
  | typescript =>
    rw [List.mem_singleton.mp hl]
    exact opensDeclaration_append (by decide)
  | java =>
    rcases List.mem_pair.mp hl with rfl | rfl <;> exact opensDeclaration_append (by decide)

theorem filter_headerLines (settings : Settings) (imports : List Text) :
    (headerLines settings imports).filter opensDeclaration = [] := by
  rw [filter_headerLines_of rfl (opensDeclaration_append (by decide))]
  refine List.filter_eq_nil_iff.mpr fun l hl => ?_
  obtain ⟨statement, _, rfl⟩ := List.mem_map.mp hl
  rw [classImportLine, opensDeclaration_append (by decide)]
  decide

theorem opensDeclaration_annotationLine {tag : Text} (ha : tag ∈ classAnnotations settings) :
    opensDeclaration (annotationLine tag) = false := by
  rcases mem_classAnnotations ha with ha | ⟨policy, _, rfl⟩
  · have hall : ∀ tag ∈ lombokAnnotations, opensDeclaration (annotationLine tag) = false := by decide
    exact hall tag ha
  · rw [annotationLine, includeAnnotation, ← List.append_assoc]
    exact opensDeclaration_append (by decide)

/-- The code of a declaration opens it, and nothing else. -/
theorem filter_unitLines (target : Target) (settings : Settings) (indent : Text) (d : Declaration) :
    (target.unitLines settings indent d).filter opensDeclaration =
      [target.declarationLine settings d.name] := by
  have hopens := opensDeclaration_declarationLine target settings d.name
  have hfields : (d.fields.flatMap fun field =>
      (target.fieldLines indent field).filter opensDeclaration) = [] :=
    List.flatMap_eq_nil_iff.mpr fun field _ => filter_fieldLines target indent field
  rw [target.filter_unitLines_of rfl rfl fun _ ha => opensDeclaration_annotationLine ha,
    List.filter_cons_of_pos hopens, List.filter_nil, hfields, List.append_nil]

/-- **The lines of a document that open a declaration are those of its declarations, in order.** -/
theorem filter_documentLines (target : Target) (settings : Settings) (indent : Text)
    (ds : List Declaration) :
    (target.documentLines settings indent ds).filter opensDeclaration =
      ds.map fun d => target.declarationLine settings d.name := by
  have hopening : (target.openingBlocks settings ds).flatMap (List.filter opensDeclaration) = [] := by
    cases target with
    | typescript => rfl
    | java =>
      rw [openingBlocks, List.flatMap_singleton]
      exact filter_headerLines settings _
  rw [documentLines, Text.filter_intercalate rfl, List.flatMap_append, hopening, List.nil_append,
    List.flatMap_map, List.map_eq_flatMap]
  simp only [filter_unitLines]

/-- A file opens its declaration, and nothing else. -/
theorem filter_fileLines (target : Target) (settings : Settings) (indent : Text) (d : Declaration) :
    (target.fileLines settings indent d).filter opensDeclaration =
      [target.declarationLine settings d.name] := by
  have hprefix : (target.prefixBlocks settings d).flatMap (List.filter opensDeclaration) = [] := by
    cases target with
    | typescript =>
      have hline : ∀ name, opensDeclaration (interfaceImportLine name) = false := fun name =>
        opensDeclaration_append (by decide)
      rw [prefixBlocks]
      split
      · rfl
      · rw [List.flatMap_singleton, List.filter_eq_nil_iff]
        intro l hl
        obtain ⟨name, _, rfl⟩ := List.mem_map.mp hl
        simp [hline name]
    | java =>
      rw [prefixBlocks, openingBlocks, List.flatMap_singleton]
      exact filter_headerLines settings _
  rw [fileLines, Text.filter_intercalate rfl, List.flatMap_append, hprefix, List.nil_append,
    List.flatMap_singleton, filter_unitLines]

theorem declarationLine_inj {target : Target} {settings : Settings} {name name' : Text}
    (h : target.declarationLine settings name = target.declarationLine settings name') :
    name = name' := by
  cases target with
  | typescript => exact List.append_cancel_left (List.append_cancel_right h)
  | java => exact List.append_cancel_left (List.append_cancel_right h)

/-! ## What classes import -/

theorem classImports_eq (settings : Settings) (ds : List Declaration) :
    classImports settings ds = classImports settings [] ++
      if ds.any Declaration.usesLists then [listImport] else [] := by
  simp [classImports]

theorem listImport_notMem_classImports_nil (settings : Settings) :
    listImport ∉ classImports settings [] := by
  rw [classImports]
  split <;> split <;> decide

theorem listImport_mem_classImports {settings : Settings} {ds : List Declaration} :
    listImport ∈ classImports settings ds ↔ ∃ d ∈ ds, d.usesLists = true := by
  rw [classImports_eq, List.mem_append, or_iff_right (listImport_notMem_classImports_nil settings),
    ← List.any_eq_true]
  split
  · rename_i h
    simp [h]
  · rename_i h
    simp [h]

/-- Apart from that of lists, the imports of classes do not depend on the classes. -/
theorem filter_classImports (settings : Settings) (ds : List Declaration) :
    (classImports settings ds).filter (· ≠ listImport) =
      classImports settings [] := by
  have hkept : (classImports settings []).filter (· ≠ listImport) =
      classImports settings [] := by
    refine List.filter_eq_self.mpr fun statement hs => decide_eq_true ?_
    rintro rfl
    exact listImport_notMem_classImports_nil settings hs
  rw [classImports_eq, List.filter_append, hkept]
  split <;> simp

end Target

end SampleTypes
