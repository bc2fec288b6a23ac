import SampleTypes.Proofs.Generation.Outcome
import SampleTypes.Proofs.Target.Reading

/-!
# A document determines its schema

> **What a document shows of a schema can be read from it**, without the settings with which it was
> generated, the sample or the name of its root.

That is all of it for classes. For interfaces it is all but the keys, and but what tells integral
numbers from others, which they do not show. So schemas that differ in what is shown never give one
document.
-/

set_option autoImplicit false

namespace SampleTypes

namespace Generator

variable {generator : Generator} {naming : RootNaming} {text : List Char} {value : Json}

theorem read_of_document (hs : generator.settings.Spaceless)
    (hroot : naming.rootName.isBlank = false) (hread : readSample text = .ok value) {code : Text}
    (hcode : generator.document naming text = .ok code) :
    generator.target.read code =
      (generator.declarations naming value).map generator.target.shown := by
  have hstyle := namedBy_ofValue (generator.style naming.suffix) naming.rootName value
  obtain ⟨indent, hindent, hneat, rfl⟩ := exists_lines_of_document hs hroot hread hcode
  exact generator.target.read_documentLines hindent (fun d hd => (hstyle d hd).isReadable) hneat

/-- **A document determines what it shows.** There is one iff there is an indentation; what it shows of
its declarations is read from it, which is all of a class; and two samples with one document have
declarations of which the same is shown. -/
theorem document_determines (generator : Generator) (naming : RootNaming) (text : List Char)
    {value : Json} (hs : generator.settings.Spaceless) (hroot : naming.rootName.isBlank = false)
    (hread : readSample text = .ok value) :
    ((∃ code, generator.document naming text = .ok code) ↔
      ∃ indent, generator.settings.indent = .ok indent) ∧
    (∀ code, generator.document naming text = .ok code →
      generator.target.read code =
        (generator.declarations naming value).map generator.target.shown ∧
      (generator.target = .java →
        generator.target.read code = generator.declarations naming value)) ∧
    ∀ (naming' : RootNaming) (text' : List Char) (value' : Json) (code : Text),
      naming'.rootName.isBlank = false → readSample text' = .ok value' →
      generator.document naming text = .ok code → generator.document naming' text' = .ok code →
      (generator.declarations naming value).map generator.target.shown =
        (generator.declarations naming' value').map generator.target.shown := by
  refine ⟨?_, fun code hcode => ⟨read_of_document hs hroot hread hcode, fun hjava => ?_⟩,
    fun naming' text' value' code hroot' hread' hcode hcode' => ?_⟩
  · rw [document_eq hs hroot hread]
    cases generator.settings.indent with
    | ok indent => exact ⟨fun _ => ⟨indent, rfl⟩, fun _ => ⟨_, rfl⟩⟩
    | error fault => simp
  · rw [read_of_document hs hroot hread hcode, hjava, funext Target.shown_java]
    exact List.map_id _
  · rw [← read_of_document hs hroot hread hcode, ← read_of_document hs hroot' hread' hcode']

theorem document_determines_order : ∃ code,
    document ⟨.java, {}⟩ ⟨"Order", []⟩ orderSample = .ok code ∧
      Target.java.read code = declarations ⟨.java, {}⟩ ⟨"Order", []⟩ orderValue := by
  obtain ⟨hthere, hread, _⟩ := document_determines ⟨.java, {}⟩ ⟨"Order", []⟩ orderSample
    Settings.spaceless_default (by decide) readSample_order
  obtain ⟨code, hcode⟩ := hthere.mpr ⟨_, rfl⟩
  exact ⟨code, hcode, (hread code hcode).2 rfl⟩

end Generator

end SampleTypes
