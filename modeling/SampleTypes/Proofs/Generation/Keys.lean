import SampleTypes.Proofs.Generation.Outcome
import SampleTypes.Proofs.Schema.Closing
import SampleTypes.Proofs.Target.Reading
import SampleTypes.Proofs.Text.Literal

/-!
# The keys of a sample in its classes

A class renames the fields of an object, so that they are names, and says in an annotation before each
of them under which key it is found.

> **The annotations of a document hold the keys of all fields, in order, and nothing else.**

They are read as a compiler reads them, from the lines that begin with the annotation's name. What the
settings put into a document begins other lines.
-/

set_option autoImplicit false

namespace SampleTypes

namespace Target

variable {settings : Settings} {indent : Text}

/-- Whether a line begins with the annotation of a key. -/
def isKeyLine (l : Text) : Bool := List.isPrefixOf ("@JsonProperty" : Text) l.outdent

/-- The key that is the argument of the annotation on a line. -/
def readKey? (l : Text) : Option Text :=
  (Text.between? "@JsonProperty(" ")" l.outdent).bind stringLiteral?

/-- The line of a key. -/
def keyLine (indent key : Text) : Text :=
  indent ++ ("@JsonProperty(" : Text) ++ key.literal ++ (")" : Text)

theorem outdent_keyLine (hindent : settings.indent = .ok indent) (key : Text) :
    (keyLine indent key).outdent = ("@JsonProperty(" : Text) ++ key.literal ++ (")" : Text) := by
  simp only [keyLine, List.append_assoc]
  rw [Text.outdent_append (mem_indent hindent)]
  rfl

theorem isKeyLine_keyLine (hindent : settings.indent = .ok indent) (key : Text) :
    isKeyLine (keyLine indent key) = true := by
  rw [isKeyLine, outdent_keyLine hindent]
  rfl

/-- **The key is the argument of its annotation.** -/
theorem readKey?_keyLine (hindent : settings.indent = .ok indent) (key : Text) :
    readKey? (keyLine indent key) = some key := by
  rw [readKey?, outdent_keyLine hindent, Text.between?_marked]
  exact stringLiteral?_literal key

/-! ## The lines of a document -/

theorem filter_isKeyLine_fieldLines (hindent : settings.indent = .ok indent) (field : Field) :
    (java.fieldLines indent field).filter isKeyLine = [keyLine indent field.key] := by
  have hmember : isKeyLine (indent ++ ("private " : Text) ++ java.typeText field.type ++
      (" " : Text) ++ field.name ++ (";" : Text)) = false := by
    simp only [isKeyLine, List.append_assoc]
    rw [Text.outdent_append (mem_indent hindent)]
    rfl
  show List.filter isKeyLine [keyLine indent field.key, _] = _
  rw [List.filter_cons_of_pos (isKeyLine_keyLine hindent field.key),
    List.filter_cons_of_neg (by rw [hmember]; simp), List.filter_nil]

theorem filter_isKeyLine_headerLines (settings : Settings) (imports : List Text) :
    (headerLines settings imports).filter isKeyLine = [] := by
  rw [filter_headerLines_of rfl rfl]
  refine List.filter_eq_nil_iff.mpr fun l hl => ?_
  obtain ⟨statement, _, rfl⟩ := List.mem_map.mp hl
  exact Bool.false_ne_true

theorem isKeyLine_annotationLine {tag : Text} (ha : tag ∈ classAnnotations settings) :
    isKeyLine (annotationLine tag) = false := by
  rcases mem_classAnnotations ha with ha | ⟨policy, _, rfl⟩
  · have hall : ∀ tag ∈ lombokAnnotations, isKeyLine (annotationLine tag) = false := by decide
    exact hall tag ha
  · rfl

theorem filter_isKeyLine_unitLines (hindent : settings.indent = .ok indent) (d : Declaration) :
    (java.unitLines settings indent d).filter isKeyLine =
      d.fields.map fun field => keyLine indent field.key := by
  have hopening : [java.declarationLine settings d.name].filter isKeyLine = [] := rfl
  rw [java.filter_unitLines_of rfl rfl fun _ ha => isKeyLine_annotationLine ha, hopening,
    List.nil_append, List.map_eq_flatMap]
  simp only [filter_isKeyLine_fieldLines hindent]

/-- **The lines of a document with the annotation of a key are those of the fields, in order.** -/
theorem filter_isKeyLine_documentLines (hindent : settings.indent = .ok indent)
    (ds : List Declaration) :
    (java.documentLines settings indent ds).filter isKeyLine =
      (ds.flatMap (·.fields)).map fun field => keyLine indent field.key := by
  rw [documentLines, Text.filter_intercalate rfl, List.flatMap_append, openingBlocks,
    List.flatMap_singleton, filter_isKeyLine_headerLines, List.nil_append, List.flatMap_map,
    List.map_flatMap]
  simp only [filter_isKeyLine_unitLines hindent]

theorem mapM_readKey?_keyLine (hindent : settings.indent = .ok indent) (fields : List Field) :
    (fields.map fun field => keyLine indent field.key).mapM readKey? = some (fields.map (·.key)) := by
  induction fields with
  | nil => rfl
  | cons field fields ih =>
    rw [List.map_cons, List.mapM_cons, readKey?_keyLine hindent, ih]
    rfl

end Target

namespace Generator

variable {settings : Settings} {naming : RootNaming} {text : List Char} {value : Json}

theorem filter_isKeyLine_document (hs : settings.Spaceless) (hroot : naming.rootName.isBlank = false)
    (hread : readSample text = .ok value) {code : Text}
    (hcode : document ⟨.java, settings⟩ naming text = .ok code) :
    ∃ indent, settings.indent = .ok indent ∧ code.lines.filter Target.isKeyLine =
      ((declarations ⟨.java, settings⟩ naming value).flatMap (·.fields)).map
        fun field => Target.keyLine indent field.key := by
  obtain ⟨indent, hindent, hneat, rfl⟩ := exists_lines_of_document hs hroot hread hcode
  refine ⟨indent, hindent, ?_⟩
  rw [hneat.lines_ofLines]
  exact Target.filter_isKeyLine_documentLines hindent _

/-- The fields of a schema that is nothing but a wrapper. -/
theorem fields_of_wrapped (generator : Generator) (h : rootObject naming.rootName value = none) :
    (generator.declarations naming value).flatMap (·.fields) =
      [wrapperField (generator.style naming.suffix) naming.rootName value] := by
  have hdeclarations : generator.declarations naming value =
      (inferRoot (generator.style naming.suffix) value naming.rootName {}).2.shapes.emission.declarations :=
    rfl
  rw [hdeclarations, emission_of_none h]
  rfl

/-- **The annotations in a document hold the keys of all fields, in order, and nothing else.** If the
root holds no object, that is the one key of its wrapper. There is a document iff there is an
indentation. -/
theorem keys_of_document (settings : Settings) (naming : RootNaming) (text : List Char)
    {value : Json} (hs : settings.Spaceless) (hroot : naming.rootName.isBlank = false)
    (hread : readSample text = .ok value) :
    ((∃ code, document ⟨.java, settings⟩ naming text = .ok code) ↔
      ∃ indent, settings.indent = .ok indent) ∧
    (∀ code, document ⟨.java, settings⟩ naming text = .ok code →
      (code.lines.filter Target.isKeyLine).mapM Target.readKey? =
        some (((declarations ⟨.java, settings⟩ naming value).flatMap (·.fields)).map (·.key))) ∧
    (rootObject naming.rootName value = none →
      ((declarations ⟨.java, settings⟩ naming value).flatMap (·.fields)).map (·.key) =
        [("value" : Text)]) := by
  refine ⟨?_, fun code hcode => ?_, fun hnone => ?_⟩
  · exact exists_document_iff hs hroot hread
  · obtain ⟨indent, hindent, hlines⟩ := filter_isKeyLine_document hs hroot hread hcode
    rw [hlines, Target.mapM_readKey?_keyLine hindent]
  · rw [fields_of_wrapped _ hnone]
    rfl

/-- A sample with an escape in its key. -/
def escapedSample : List Char := "\x7b\"\\\\u0041\\n\":1\x7d".toList

/-- The value in it. -/
def escapedValue : Json := .obj [("\\u0041\n", .int 1)]

theorem readSample_escaped : readSample escapedSample = .ok escapedValue := by cbv

theorem keys_of_document_escaped : ∃ code,
    document ⟨.java, {}⟩ ⟨"Order", []⟩ escapedSample = .ok code ∧
      (code.lines.filter Target.isKeyLine).mapM Target.readKey? =
        some (((declarations ⟨.java, {}⟩ ⟨"Order", []⟩ escapedValue).flatMap (·.fields)).map
          (·.key)) := by
  obtain ⟨hthere, hkeys, _⟩ := keys_of_document {} ⟨"Order", []⟩ escapedSample
    Settings.spaceless_default (by decide) readSample_escaped
  obtain ⟨code, hcode⟩ := hthere.mpr ⟨_, rfl⟩
  exact ⟨code, hcode, hkeys code hcode⟩

end Generator

end SampleTypes
