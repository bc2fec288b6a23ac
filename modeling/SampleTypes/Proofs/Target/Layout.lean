import SampleTypes.Proofs.Text.Lines
import SampleTypes.Target.Code

/-!
# Generated code, line by line

Templates write code piece by piece. Here it is written line by line, and **what a template renders
is the text with these lines** (`Target.unit_eq`, `Target.header_eq`, `Target.interfaceCode_eq`).
Rendering never fails: every variable that a template names is in its context. So the one thing that
code can fail for is its indentation.

Nothing is asked of the declarations or the settings yet. That their names and texts stay on one
line is the subject of the next file.
-/

set_option autoImplicit false

namespace SampleTypes

open CodePoint (lineFeed)

/-! ## Rendering -/

namespace Template

variable {markup : Bool} {context : TemplateContext} {parts : List TemplatePart} {rest : Text}

theorem render_text (content : Text) (h : render markup context parts = .ok rest) :
    render markup context (.text content :: parts) = .ok (content ++ rest) := by
  rw [render, renderPart, h]
  rfl

theorem render_plain {source : Reference} {t : Text} (hvalue : source.resolve context = .ok (.str t))
    (h : render false context parts = .ok rest) :
    render false context (.output source .plain :: parts) = .ok (t ++ rest) := by
  rw [render, renderPart, hvalue, h]
  rfl

theorem render_when {condition : Reference} (value : Json) {body : List TemplatePart} {text : Text}
    (hvalue : condition.resolve context = .ok value) (hbody : render markup context body = .ok text)
    (h : render markup context parts = .ok rest) :
    render markup context (.when condition body :: parts) =
      .ok ((if value.isTruthy then text else []) ++ rest) := by
  rw [render, renderPart, hvalue, h]
  cases htrue : value.isTruthy with
  | true => simp [htrue, hbody, bind, Except.bind, pure, Except.pure]
  | false => simp [htrue, bind, Except.bind, pure, Except.pure]

theorem mapM_eq_ok {α β ε : Type} {f : α → Except ε β} {g : α → β} {as : List α}
    (h : ∀ a ∈ as, f a = .ok (g a)) : as.mapM f = .ok (as.map g) := by
  induction as with
  | nil => rfl
  | cons a as ih =>
    obtain ⟨ha, has⟩ := List.forall_mem_cons.mp h
    rw [List.mapM_cons, ha, ih has]
    rfl

/-- A loop over values that are made of something writes a text for each of it. -/
theorem render_each {α : Type} {name : Text} {source : Reference} {value : Json}
    {body : List TemplatePart} (as : List α) (element : α → Json) {text : α → Text}
    (hvalue : source.resolve context = .ok value)
    (helements : value.elements? = some (as.map element))
    (hbody : ∀ a, render markup ((name, element a) :: context) body = .ok (text a))
    (h : render markup context parts = .ok rest) :
    render markup context (.each name source body :: parts) = .ok (as.flatMap text ++ rest) := by
  have hloop : (as.map element).mapM (fun e => render markup ((name, e) :: context) body) =
      .ok (as.map text) := by
    rw [List.mapM_map]
    exact mapM_eq_ok fun a _ => hbody a
  rw [render, renderPart, hvalue, h]
  simp only [bind, Except.bind, helements, hloop, pure, Except.pure, List.flatMap_def]

end Template

/-! ## The lines -/

/-- The line of an annotation before a class. -/
def annotationLine (tag : Text) : Text := ("@" : Text) ++ tag

/-- The line of an import of a class. -/
def classImportLine (statement : Text) : Text :=
  ("import " : Text) ++ statement ++ (";" : Text)

/-- The line of an import of an interface. -/
def interfaceImportLine (name : Text) : Text :=
  ("import \x7b " : Text) ++ name ++ (" \x7d from './" : Text) ++ name ++ ("';" : Text)

/-- A line imports one interface. -/
theorem interfaceImportLine_inj {name name' : Text}
    (h : interfaceImportLine name = interfaceImportLine name') : name = name' := by
  have hlength := congrArg List.length h
  simp only [interfaceImportLine, List.length_append] at hlength
  simp only [interfaceImportLine, List.append_assoc] at h
  exact (List.append_inj (List.append_cancel_left h) (by omega)).1

namespace Target

theorem mem_classAnnotations {settings : Settings} {tag : Text}
    (h : tag ∈ classAnnotations settings) : tag ∈ lombokAnnotations ∨
      ∃ policy, settings.jsonInclude = some policy ∧ tag = includeAnnotation policy := by
  rcases List.mem_append.mp h with h | h
  · split at h
    · exact Or.inl h
    · exact absurd h (by simp)
  · obtain ⟨policy, hpolicy, rfl⟩ := Option.map_eq_some_iff.mp (Option.mem_toList.mp h)
    exact Or.inr ⟨policy, (Option.filter_eq_some_iff.mp hpolicy).1, rfl⟩

/-- The line with which a declaration opens. -/
def declarationLine (target : Target) (settings : Settings) (name : Text) : Text :=
  match target with
  | typescript => (if settings.exportDeclarations then ("export " : Text) else []) ++
      ("interface " : Text) ++ name ++ (" \x7b" : Text)
  | java => ("public class " : Text) ++ name ++ (" \x7b" : Text)

/-- The lines of a field. -/
def fieldLines (target : Target) (indent : Text) (field : Field) : List Text :=
  match target with
  | typescript =>
    [indent ++ field.name ++ (": " : Text) ++ typescript.typeText field.type ++ (";" : Text)]
  | java =>
    [indent ++ ("@JsonProperty(" : Text) ++ field.key.literal ++ (")" : Text),
      indent ++ ("private " : Text) ++ java.typeText field.type ++ (" " : Text) ++ field.name ++
        (";" : Text)]

/-- The lines of the code of one declaration: an interface is one block of lines, a class has an empty
line before each field and before its end. -/
def unitLines (target : Target) (settings : Settings) (indent : Text) (d : Declaration) :
    List Text :=
  match target with
  | typescript => typescript.declarationLine settings d.name ::
      (d.fields.flatMap (typescript.fieldLines indent) ++ [("\x7d" : Text)])
  | java => [[]].intercalate
      (((classAnnotations settings).map annotationLine ++ [java.declarationLine settings d.name]) ::
        (d.fields.map (java.fieldLines indent) ++ [[("\x7d" : Text)]]))

end Target

/-- The lines of the header of classes. -/
def headerLines (settings : Settings) (imports : List Text) : List Text :=
  (("package " : Text) ++ Target.packageOf settings ++ (";" : Text)) :: [] ::
    imports.map classImportLine

/-! ## What the templates render -/

namespace Text

/-- All lines but the last are ended. -/
theorem ofLines_append_eq (as : List Text) {bs : List Text} (hb : bs ≠ []) :
    ofLines (as ++ bs) = as.flatMap (· ++ [lineFeed]) ++ ofLines bs := by
  induction as with
  | nil => rfl
  | cons a as ih =>
    rw [List.cons_append, ofLines_cons (by simp [hb]), ih]
    simp

theorem flatMap_ended {as : List Text} (h : as ≠ []) :
    as.flatMap (· ++ [lineFeed]) = ofLines as ++ [lineFeed] := by
  rw [← ofLines_snoc_nil h, ofLines_append_eq as (by simp)]
  simp [ofLines, join]

theorem intercalate_cons_eq (b : List Text) (bs : List (List Text)) :
    [[]].intercalate (b :: bs) = b ++ bs.flatMap ([] :: ·) := by
  induction bs generalizing b with
  | nil => simp
  | cons b' bs ih => rw [List.intercalate_cons_cons, ih]; simp

end Text

namespace Target

theorem render_eq_ok {target : Target} {name : Text} {context : TemplateContext}
    (template : Template) {text : Text} (hfind : target.templates.find name = .ok template)
    (hmarkup : TemplateLibrary.isMarkup name = false)
    (h : Template.render false context template = .ok text) : target.render name context = .ok text := by
  rw [render, TemplateLibrary.render, hfind, hmarkup]
  simp only [bind, Except.bind, h]

theorem ofLines_unitLines_typescript (settings : Settings) (indent : Text) (d : Declaration) :
    Text.ofLines (typescript.unitLines settings indent d) =
      typescript.declarationLine settings d.name ++ lineFeed ::
        ((d.fields.flatMap fun field => indent ++ field.name ++ (": " : Text) ++
          typescript.typeText field.type ++ (";\n" : Text)) ++ ("\x7d" : Text)) := by
  rw [unitLines, Text.ofLines_cons (by simp), Text.ofLines_append_eq _ (by simp),
    List.flatMap_assoc]
  simp only [fieldLines, List.flatMap_singleton, List.append_assoc]
  rfl

theorem ofLines_unitLines_java (settings : Settings) (indent : Text) (d : Declaration) :
    Text.ofLines (java.unitLines settings indent d) =
      ((classAnnotations settings).flatMap fun tag =>
          ("@" : Text) ++ tag ++ ("\n" : Text)) ++
        (java.declarationLine settings d.name ++ lineFeed ::
          ((d.fields.flatMap fun field => ("\n" : Text) ++ indent ++ ("@JsonProperty(" : Text) ++
              field.key.literal ++ (")\n" : Text) ++ indent ++ ("private " : Text) ++
              java.typeText field.type ++ (" " : Text) ++ field.name ++ (";\n" : Text)) ++
            ("\n\x7d" : Text))) := by
  rw [unitLines, Text.intercalate_cons_eq, List.flatMap_append, List.append_assoc,
    Text.ofLines_append_eq _ (by simp), List.singleton_append, Text.ofLines_cons (by simp),
    Text.ofLines_append_eq _ (by simp), List.flatMap_map, List.flatMap_map, List.flatMap_assoc]
  simp only [fieldLines, annotationLine, List.flatMap_cons, List.flatMap_nil, List.append_assoc,
    List.append_nil, List.nil_append]
  rfl

variable (settings : Settings) (indent : Text) (d : Declaration)

/-- What an interface's template renders: the imports with an empty line after them, if there are any,
and the interface. -/
theorem render_interface (imports : List Text) :
    typescript.render interfaceTemplateName (interfaceContext settings indent d imports) =
      .ok (imports.flatMap (fun name => interfaceImportLine name ++ [lineFeed]) ++
        ((if imports.isEmpty then [] else [lineFeed]) ++
          Text.ofLines (typescript.unitLines settings indent d))) := by
  have hrender : Template.render false (interfaceContext settings indent d imports)
      interfaceTemplate = .ok (imports.flatMap (fun name => interfaceImportLine name ++ [lineFeed]) ++
        ((if (textValues imports).isTruthy then ("\n" : Text) else []) ++
          ((if settings.exportDeclarations then ("export " : Text) else []) ++
            (("interface " : Text) ++ (d.name ++ ((" \x7b\n" : Text) ++
              ((d.fields.flatMap fun field => indent ++ field.name ++ (": " : Text) ++
                typescript.typeText field.type ++ (";\n" : Text)) ++ ("\x7d" : Text)))))))) := by
    refine Template.render_each imports .str rfl rfl (fun name => ?_) ?_
    · simp only [interfaceImportLine, List.append_assoc]
      rfl
    refine Template.render_when (textValues imports) rfl rfl ?_
    refine Template.render_when (.bool settings.exportDeclarations) rfl rfl ?_
    refine Template.render_text _ (Template.render_plain rfl (Template.render_text _ ?_))
    refine Template.render_each d.fields _ rfl rfl (fun field => ?_) rfl
    simp only [List.append_assoc]
    rfl
  have hempty : (textValues imports).isTruthy = !imports.isEmpty := by
    cases imports <;> rfl
  refine render_eq_ok interfaceTemplate rfl rfl (hrender.trans ?_)
  rw [hempty, ofLines_unitLines_typescript]
  cases imports <;> simp [declarationLine] <;> rfl

/-- What a header's template renders ends its last line, too. -/
theorem render_header (ds : List Declaration) :
    java.render headerTemplateName (headerContext settings ds) =
      .ok (Text.ofLines (headerLines settings (classImports settings ds)) ++ [lineFeed]) := by
  refine render_eq_ok headerTemplate rfl rfl ?_
  rw [headerLines, ← Text.flatMap_ended (by simp), List.flatMap_cons, List.flatMap_cons,
    List.flatMap_map]
  have hrender : Template.render false (headerContext settings ds) headerTemplate =
      .ok (("package " : Text) ++ (packageOf settings ++ ((";\n\n" : Text) ++
        ((classImports settings ds).flatMap (fun statement => classImportLine statement ++
          [lineFeed]) ++ [])))) := by
    refine Template.render_text _ (Template.render_plain rfl (Template.render_text _ ?_))
    refine Template.render_each (classImports settings ds) .str rfl rfl (fun statement => ?_) rfl
    simp only [classImportLine, List.append_assoc]
    rfl
  rw [hrender]
  simp only [List.append_assoc, List.append_nil]
  rfl

/-- What a class's template renders. -/
theorem render_class : java.render classTemplateName (classContext settings indent d) =
    .ok (Text.ofLines (java.unitLines settings indent d)) := by
  refine render_eq_ok classTemplate rfl rfl ?_
  have hrender : Template.render false (classContext settings indent d) classTemplate =
      .ok (((classAnnotations settings).flatMap fun tag =>
          ("@" : Text) ++ tag ++ ("\n" : Text)) ++
        (("public class " : Text) ++ (d.name ++ ((" \x7b\n" : Text) ++
          ((d.fields.flatMap fun field => ("\n" : Text) ++ indent ++ ("@JsonProperty(" : Text) ++
              field.key.literal ++ (")\n" : Text) ++ indent ++ ("private " : Text) ++
              java.typeText field.type ++ (" " : Text) ++ field.name ++ (";\n" : Text)) ++
            ("\n\x7d" : Text)))))) := by
    refine Template.render_each (classAnnotations settings) .str rfl rfl (fun tag => ?_) ?_
    · simp only [List.append_assoc]
      rfl
    refine Template.render_text _ (Template.render_plain rfl (Template.render_text _ ?_))
    refine Template.render_each d.fields _ rfl rfl (fun field => ?_) rfl
    simp only [List.append_assoc]
    rfl
  rw [hrender, ofLines_unitLines_java]
  simp only [declarationLine, List.append_assoc]
  rfl

/-! ## What code fails for -/

/-- An interface in a file is the text with its lines, unless there is no indentation. -/
theorem interfaceCode_eq (imports : List Text) : interfaceCode settings d imports =
    match settings.indent with
    | .ok indent => .ok (imports.flatMap (fun name => interfaceImportLine name ++ [lineFeed]) ++
        ((if imports.isEmpty then [] else [lineFeed]) ++
          Text.ofLines (typescript.unitLines settings indent d)))
    | .error fault => .error (.indent fault) := by
  rw [interfaceCode, indentOf]
  cases settings.indent with
  | ok indent => exact render_interface settings indent d imports
  | error fault => rfl

/-- **The code of a declaration is the text with its lines**, unless there is no indentation. -/
theorem unit_eq (target : Target) : target.unit settings d =
    match settings.indent with
    | .ok indent => .ok (Text.ofLines (target.unitLines settings indent d))
    | .error fault => .error (.indent fault) := by
  cases target with
  | typescript =>
    rw [unit, interfaceCode_eq]
    rfl
  | java =>
    rw [unit, indentOf]
    cases settings.indent with
    | ok indent => exact render_class settings indent d
    | error fault => rfl

end Target

end SampleTypes
