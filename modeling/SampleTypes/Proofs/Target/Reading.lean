import Mathlib.Data.List.Basic
import Mathlib.Tactic.IntervalCases
import SampleTypes.Json.Reader
import SampleTypes.Proofs.Schema.Named

/-!
# Reading generated code

A reader for documents that goes through their lines once. It knows nothing of the settings with which
a document was written, and undoes the writing:

> **what was written is read back** (`Target.read_documentLines`).

Of a class everything is read back, of an interface what it shows: no keys, and not whether a number
was integral (`Target.shown`). Each kind of text has its own law: literals
(`readLiteral_literal`), types (`Target.readType_typeText`), the lines of a field, of a declaration,
of a document.
-/

set_option autoImplicit false

namespace SampleTypes

open CodePoint (lineFeed)
open Text (IsName)

/-! ## The reader -/

/-- What a literal between its quotes stands for. -/
def readLiteral : Text → Text
  | .scalar '\\' :: .scalar 'u' :: .scalar a :: .scalar b :: .scalar c :: .scalar d :: t =>
    .ofNat ((Json.hexQuad? a b c d).getD 0) :: readLiteral t
  | .scalar '\\' :: .scalar c :: t => .scalar ((Json.letterEscape? c).getD c) :: readLiteral t
  | c :: t => c :: readLiteral t
  | [] => []

namespace Text

/-- What stands between two texts, if a text begins with the one and ends with the other. -/
def between? (opening closing t : Text) : Option Text :=
  (t.dropPrefix? opening).bind (·.dropSuffix? closing)

/-- What stands before the first space, and what after it. -/
def cut (t : Text) : Text × Text :=
  (t.takeWhile (· ≠ .scalar ' '), (t.dropWhile (· ≠ .scalar ' ')).tail)

/-- A line without its indentation. -/
def outdent (l : Text) : Text := l.dropWhile fun c => c = .scalar ' ' || c = .scalar '\t'

end Text

namespace Target

/-- The types that are spelled by a word of the language. -/
def scalars : List FieldType := [.string, .number true, .number false, .boolean, .any]

/-- The type that a word stands for. -/
def readElement (target : Target) (t : Text) : FieldType :=
  (scalars.find? fun type => target.typeText type == t).getD (.ref t)

/-- The type of an interface's field; the text is read from its end. -/
def readPostfix : Text → FieldType
  | .scalar ']' :: .scalar '[' :: t => .list (readPostfix t)
  | t => typescript.readElement t.reverse

/-- The type of a class's field. -/
def readPrefix : Text → FieldType
  | .scalar 'L' :: .scalar 'i' :: .scalar 's' :: .scalar 't' :: .scalar '<' :: t =>
    .list (readPrefix t)
  | t => java.readElement (t.takeWhile (· ≠ .scalar '>'))

/-- The type that is spelled by a text. -/
def readType (target : Target) (t : Text) : FieldType :=
  match target with
  | typescript => readPostfix t.reverse
  | java => readPrefix t

/-- What was read so far: the declarations, the last one first, and the key of the next field. -/
structure Reading where
  declarations : List Declaration := []
  key : Text := []

/-- A declaration is opened. -/
def Reading.openDeclaration (r : Reading) (name : Text) : Reading := ⟨{ name } :: r.declarations, []⟩

/-- A field is added to the declaration that was opened last. -/
def Reading.addField (r : Reading) (name : Text) (type : FieldType) : Reading :=
  ⟨r.declarations.modifyHead (·.addField ⟨name, r.key, type⟩), []⟩

/-- What was read after one more line. -/
def readLine (target : Target) (r : Reading) (line : Text) : Reading :=
  match target with
  | typescript =>
    match Text.between? "interface " " \x7b" ((line.dropPrefix? "export ").getD line) with
    | some name => r.openDeclaration name
    | none =>
      match Text.between? [] ";" line.outdent with
      | some field => r.addField field.cut.1.dropLast (typescript.readType field.cut.2)
      | none => r
  | java =>
    match Text.between? "public class " " \x7b" line with
    | some name => r.openDeclaration name
    | none =>
      match Text.between? "@JsonProperty(\"" "\")" line.outdent with
      | some key => { r with key := readLiteral key }
      | none =>
        match Text.between? "private " ";" line.outdent with
        | some field => r.addField field.cut.2 (java.readType field.cut.1)
        | none => r

/-- The declarations in a document. -/
def read (target : Target) (code : Text) : List Declaration :=
  (code.lines.foldl target.readLine {}).declarations.reverse

/-! ## What a document shows -/

/-- What is shown of a type: an interface does not tell integral numbers from others. -/
def shownType (target : Target) : FieldType → FieldType
  | .list element => .list (target.shownType element)
  | .number integral => match target with
    | typescript => .number true
    | java => .number integral
  | type => type

/-- What is shown of a field: an interface does not show the key. -/
def shownField (target : Target) (field : Field) : Field where
  name := field.name
  key := match target with
    | typescript => []
    | java => field.key
  type := target.shownType field.type

/-- What is shown of a declaration. -/
def shown (target : Target) (d : Declaration) : Declaration :=
  { d with fields := d.fields.map target.shownField }

end Target

/-! ## Marks around a text -/

namespace Text

variable {opening closing t m : Text}

theorem between?_eq_some_iff : between? opening closing t = some m ↔ t = opening ++ m ++ closing := by
  simp only [between?, Option.bind_eq_some_iff, List.dropPrefix?_eq_some_iff,
    List.dropSuffix?_eq_some_iff, beq_iff_eq, List.append_assoc]
  constructor
  · rintro ⟨_, ⟨_, rfl, rfl⟩, _, rfl, rfl⟩
    rfl
  · rintro rfl
    exact ⟨_, ⟨_, rfl, rfl⟩, _, rfl, rfl⟩

theorem between?_marked (opening m closing : Text) :
    between? opening closing (opening ++ m ++ closing) = some m := between?_eq_some_iff.mpr rfl

theorem cut_append {a b : Text} (ha : .scalar ' ' ∉ a) :
    cut (a ++ .scalar ' ' :: b) = (a, b) := by
  have hall : ∀ c ∈ a, (decide (c ≠ .scalar ' ')) = true := by
    intro c hc
    refine decide_eq_true ?_
    rintro rfl
    exact ha hc
  rw [cut, List.takeWhile_append_of_pos hall, List.dropWhile_append_of_pos hall]
  simp

theorem outdent_append {indent t : Text} (hindent : ∀ c ∈ indent, c = .scalar '\t' ∨ c = .scalar ' ') :
    outdent (indent ++ t) = outdent t := by
  refine List.dropWhile_append_of_pos fun c hc => ?_
  rcases hindent c hc with rfl | rfl <;> rfl

/-- A name is where a line begins, if it is the first thing on it. -/
theorem outdent_of_isName {name t : Text} (h : IsName name) : outdent (name ++ t) = name ++ t := by
  obtain ⟨hne, hpart⟩ := h
  cases name with
  | nil => exact absurd rfl hne
  | cons c name =>
    have hc : c.isNamePart = true := hpart c List.mem_cons_self
    rw [outdent, List.cons_append, List.dropWhile_cons_of_neg]
    simp only [Bool.or_eq_true, decide_eq_true_eq, not_or]
    constructor <;> rintro rfl <;> exact absurd hc (by decide)

end Text

/-! ## Literals -/

theorem readLiteral_control {n : Nat} (hn : n < 0x20) (t : Text) :
    readLiteral (Text.ofChars (literalChar (Char.ofNat n)) ++ t) =
      .scalar (Char.ofNat n) :: readLiteral t := by
  interval_cases n <;> rfl

theorem readLiteral_plain {c : CodePoint} (hc : c ≠ .scalar '\\') (t : Text) :
    readLiteral (c :: t) = c :: readLiteral t := by
  rw [readLiteral]
  · intro _ _ _ _ _ h
    exact absurd h hc
  · intro _ _ h
    exact absurd h hc

theorem readLiteral_literalChar (c : Char) (t : Text) :
    readLiteral (Text.ofChars (literalChar c) ++ t) = .scalar c :: readLiteral t := by
  by_cases hc : c.toNat < 0x20
  · have := readLiteral_control hc t
    rwa [Char.ofNat_toNat] at this
  · unfold literalChar
    split
    case h_1 | h_2 => rfl
    case h_8 =>
      rename_i hbackslash _ _ _ _ _
      rw [if_neg hc]
      refine readLiteral_plain (fun h => ?_) t
      exact hbackslash (CodePoint.scalar.inj h)
    all_goals exact absurd (by decide) hc

/-- **A literal is read back**, whatever it is of. -/
theorem readLiteral_literal (t : Text) : readLiteral (t.flatMap CodePoint.literal) = t := by
  induction t with
  | nil => rfl
  | cons c t ih =>
    rw [List.flatMap_cons]
    cases c with
    | scalar c => exact (readLiteral_literalChar c _).trans (congrArg _ ih)
    | surrogate half => exact (readLiteral_plain (by simp) _).trans (congrArg _ ih)

/-! ## Types -/

namespace Target

/-- A name that is no word for a type. -/
def IsReference (target : Target) (name : Text) : Prop :=
  IsName name ∧ ∀ type ∈ scalars, target.typeText type ≠ name

theorem readElement_of_isReference {target : Target} {name : Text} (h : target.IsReference name) :
    target.readElement name = .ref name := by
  have hnone : (scalars.find? fun type => target.typeText type == name) = none :=
    List.find?_eq_none.mpr fun type htype => by simpa using h.2 type htype
  rw [readElement, hnone]
  rfl

theorem readPostfix_of_isName {t : Text} (h : IsName t) :
    readPostfix t.reverse = typescript.readElement t := by
  have hread : readPostfix t.reverse = typescript.readElement t.reverse.reverse := by
    rw [readPostfix]
    -- What is left to show is that no list ends here: a name holds no bracket.
    intro rest hrest
    have hmem : CodePoint.scalar ']' ∈ t := by
      rw [← List.mem_reverse, hrest]
      exact List.mem_cons_self
    exact h.notMem (by decide) hmem
  rw [hread, List.reverse_reverse]

theorem readPrefix_of_isName {t : Text} (h : IsName t) (n : Nat) :
    readPrefix (t ++ List.replicate n (.scalar '>')) = java.readElement t := by
  have hall : ∀ c ∈ t, decide (c ≠ .scalar '>') = true := by
    intro c hc
    refine decide_eq_true ?_
    rintro rfl
    exact h.notMem (by decide) hc
  rw [readPrefix]
  · rw [List.takeWhile_append_of_pos hall]
    cases n <;> simp [List.replicate_succ]
  · -- Nor does a list begin, not even with a name such as `List`.
    intro rest hrest
    have hmem : CodePoint.scalar '<' ∈ t ++ List.replicate n (.scalar '>') := by
      rw [hrest]
      simp
    rcases List.mem_append.mp hmem with hmem | hmem
    · exact h.notMem (by decide) hmem
    · exact absurd (List.eq_of_mem_replicate hmem) (by decide)

/-- A type that is no list is spelled by a word or by a name. -/
theorem readElement_typeText {target : Target} {type : FieldType}
    (h : ∀ name, type.reference? = some name → target.IsReference name)
    (hlist : ∀ element, type ≠ .list element) :
    IsName (target.typeText type) ∧
      target.readElement (target.typeText type) = target.shownType type := by
  cases type with
  | list element => exact absurd rfl (hlist element)
  | ref name => exact ⟨(h name rfl).1, readElement_of_isReference (h name rfl)⟩
  | string | boolean | any => cases target <;> exact ⟨⟨by decide, by decide⟩, by decide⟩
  | number integral =>
    cases target <;> cases integral <;> exact ⟨⟨by decide, by decide⟩, by decide⟩

theorem readPostfix_typeText {type : FieldType}
    (h : ∀ name, type.reference? = some name → typescript.IsReference name) :
    readPostfix (typescript.typeText type).reverse = typescript.shownType type := by
  induction type with
  | list element ih =>
    have hlist : readPostfix (typescript.typeText (.list element)).reverse =
        .list (readPostfix (typescript.typeText element).reverse) := by
      show readPostfix (typescript.typeText element ++ ("[]" : Text)).reverse = _
      rw [List.reverse_append]
      rfl
    rw [hlist, ih h]
    rfl
  | string | number | boolean | any | ref =>
    obtain ⟨hname, hread⟩ := readElement_typeText h (by simp)
    rw [readPostfix_of_isName hname, hread]

theorem readPrefix_typeText {type : FieldType}
    (h : ∀ name, type.reference? = some name → java.IsReference name) (n : Nat) :
    readPrefix (java.typeText type ++ List.replicate n (.scalar '>')) = java.shownType type := by
  induction type generalizing n with
  | list element ih =>
    have hlist : readPrefix (java.typeText (.list element) ++ List.replicate n (.scalar '>')) =
        .list (readPrefix (java.typeText element ++ List.replicate (n + 1) (.scalar '>'))) := by
      show readPrefix (("List<" : Text) ++ java.typeText element ++ (">" : Text) ++ _) = _
      rw [List.append_assoc, List.append_assoc, List.replicate_succ]
      rfl
    rw [hlist, ih h]
    rfl
  | string | number | boolean | any | ref =>
    obtain ⟨hname, hread⟩ := readElement_typeText h (by simp)
    rw [readPrefix_of_isName hname, hread]

/-- **A type is read back**, as far as it is shown. -/
theorem readType_typeText {target : Target} {type : FieldType}
    (h : ∀ name, type.reference? = some name → target.IsReference name) :
    target.readType (target.typeText type) = target.shownType type := by
  cases target with
  | typescript => exact readPostfix_typeText h
  | java => simpa [readType] using readPrefix_typeText h 0

/-- The name of every interface starts with the lead. -/
theorem head?_declarationName (suffix hint : Text) (fromKey : Bool) :
    (typescript.convention.declarationName suffix hint fromKey).head? = some (.scalar 'I') := by
  have hled : (typescript.convention.addLead fromKey (NamingConvention.baseName hint)).head? =
      some (.scalar 'I') := by
    rw [NamingConvention.addLead]
    split
    · rfl
    · rename_i hcarries
      simp only [Bool.or_eq_true, Bool.not_eq_true', not_or, Bool.not_eq_false,
        NamingConvention.carriesLead, Bool.and_eq_true] at hcarries
      obtain ⟨rest, hrest⟩ := List.isPrefixOf_iff_prefix.mp hcarries.2.1.2
      rw [← hrest]
      rfl
  have hname : (typescript.convention.decorated suffix hint fromKey).head? =
      some (.scalar 'I') := by
    rw [NamingConvention.decorated, NamingConvention.addTrail]
    split <;> simp [hled]
  obtain ⟨rest, hrest⟩ := List.head?_eq_some_iff.mp hname
  show (Text.guardDigit (typescript.convention.decorated suffix hint fromKey)).head? = _
  rw [hrest]
  rfl

/-- The name of every class ends in the trail. -/
theorem getLast?_declarationName (suffix hint : Text) (fromKey : Bool) :
    (java.convention.declarationName suffix hint fromKey).getLast? = some (.scalar 'o') := by
  have hname : (java.convention.decorated suffix hint fromKey).getLast? =
      some (.scalar 'o') := by
    rw [NamingConvention.decorated, NamingConvention.addTrail]
    split
    · rw [List.getLast?_append_of_ne_nil _ (by decide)]
      rfl
    · rename_i hends
      simp only [Bool.or_eq_true, Bool.not_eq_true', not_or, Bool.not_eq_false] at hends
      obtain ⟨rest, hrest⟩ := List.isSuffixOf_iff_suffix.mp hends.2
      rw [← hrest, List.getLast?_append_of_ne_nil _ (by decide)]
      rfl
  show (Text.guardDigit (java.convention.decorated suffix hint fromKey)).getLast? = _
  cases hdecorated : java.convention.decorated suffix hint fromKey with
  | nil =>
    rw [hdecorated] at hname
    exact absurd hname (by simp)
  | cons c rest =>
    rw [hdecorated] at hname
    rw [Text.guardDigit]
    split
    · rw [List.getLast?_cons, hname]
      rfl
    · exact hname

/-- **The name of a declaration is no word for a type.** -/
theorem isReference_declarationName (target : Target) (suffix hint : Text) (fromKey : Bool) :
    target.IsReference (target.convention.declarationName suffix hint fromKey) := by
  refine ⟨target.isName_declarationName suffix hint fromKey, fun type htype hword => ?_⟩
  cases target with
  | typescript =>
    have hother : ∀ type ∈ scalars, (typescript.typeText type).head? ≠ some (.scalar 'I') := by
      decide
    exact hother type htype (hword ▸ head?_declarationName suffix hint fromKey)
  | java =>
    have hother : ∀ type ∈ scalars, (java.typeText type).getLast? ≠ some (.scalar 'o') := by
      decide
    exact hother type htype (hword ▸ getLast?_declarationName suffix hint fromKey)

/-! ## Lines -/

variable {settings : Settings} {indent : Text} {r : Reading}

theorem readLine_of_empty (target : Target) (r : Reading) : target.readLine r [] = r := by
  cases target <;> rfl

theorem readLine_declarationLine (target : Target) (settings : Settings) (r : Reading)
    (name : Text) :
    target.readLine r (target.declarationLine settings name) = r.openDeclaration name := by
  cases target with
  | typescript =>
    have hline : (List.dropPrefix? (typescript.declarationLine settings name) "export ").getD
        (typescript.declarationLine settings name) =
          ("interface " : Text) ++ name ++ (" \x7b" : Text) := by
      rw [declarationLine]
      cases settings.exportDeclarations <;> rfl
    rw [readLine, hline, Text.between?_marked]
  | java => rw [readLine, declarationLine, Text.between?_marked]

/-- A line that does not end with a brace opens nothing. -/
theorem between?_eq_none_of_not_opens {opening l : Text} (h : opensDeclaration l = false) :
    Text.between? opening " \x7b" l = none := by
  refine Option.eq_none_iff_forall_ne_some.mpr fun m hm => ?_
  rw [Text.between?_eq_some_iff.mp hm, opensDeclaration_append (by decide)] at h
  exact absurd h (by decide)

theorem opensDeclaration_getD {mark l : Text} (h : opensDeclaration l = false) :
    opensDeclaration ((l.dropPrefix? mark).getD l) = false := by
  cases hmark : l.dropPrefix? mark with
  | none => exact h
  | some rest =>
    obtain ⟨before, rfl, _⟩ := List.dropPrefix?_eq_some_iff.mp hmark
    rcases List.eq_nil_or_concat rest with rfl | ⟨_, _, rfl⟩
    · rfl
    · rwa [opensDeclaration_append (by simp)] at h

theorem readLine_interfaceField (hindent : settings.indent = .ok indent) {field : Field}
    (hname : IsName field.name)
    (href : ∀ name, field.type.reference? = some name → typescript.IsReference name) (r : Reading) :
    typescript.readLine r
        (indent ++ field.name ++ (": " : Text) ++ typescript.typeText field.type ++ (";" : Text)) =
      r.addField field.name (typescript.shownType field.type) := by
  have hopens : opensDeclaration (indent ++ field.name ++ (": " : Text) ++
      typescript.typeText field.type ++ (";" : Text)) = false := opensDeclaration_append (by decide)
  have hline : Text.outdent
      (indent ++ field.name ++ (": " : Text) ++ typescript.typeText field.type ++ (";" : Text)) =
        [] ++ ((field.name ++ (":" : Text)) ++ .scalar ' ' :: typescript.typeText field.type) ++
          (";" : Text) := by
    simp only [List.append_assoc]
    rw [Text.outdent_append (mem_indent hindent), Text.outdent_of_isName hname]
    rfl
  have hspace : .scalar ' ' ∉ field.name ++ (":" : Text) := by
    rw [List.mem_append, not_or]
    exact ⟨hname.notMem (by decide), by decide⟩
  have hcolon : (field.name ++ (":" : Text)).dropLast = field.name := List.dropLast_concat
  simp only [readLine, between?_eq_none_of_not_opens (opensDeclaration_getD hopens), hline,
    Text.between?_marked, Text.cut_append hspace, hcolon, readType_typeText href]

theorem readLine_keyLine (hindent : settings.indent = .ok indent) (key : Text) (r : Reading) :
    java.readLine r (indent ++ ("@JsonProperty(" : Text) ++ key.literal ++ (")" : Text)) =
      { r with key } := by
  have hopens : opensDeclaration
      (indent ++ ("@JsonProperty(" : Text) ++ key.literal ++ (")" : Text)) = false :=
    opensDeclaration_append (by decide)
  have hline : Text.outdent
      (indent ++ ("@JsonProperty(" : Text) ++ key.literal ++ (")" : Text)) =
        ("@JsonProperty(\"" : Text) ++ key.flatMap CodePoint.literal ++ ("\")" : Text) := by
    simp only [Text.literal, List.append_assoc]
    rw [Text.outdent_append (mem_indent hindent)]
    rfl
  simp only [readLine, between?_eq_none_of_not_opens hopens, hline, Text.between?_marked,
    readLiteral_literal]

theorem readLine_memberLine (hindent : settings.indent = .ok indent) {field : Field}
    (href : ∀ name, field.type.reference? = some name → java.IsReference name) (r : Reading) :
    java.readLine r (indent ++ ("private " : Text) ++ java.typeText field.type ++ (" " : Text) ++
        field.name ++ (";" : Text)) =
      r.addField field.name (java.shownType field.type) := by
  have hopens : opensDeclaration (indent ++ ("private " : Text) ++ java.typeText field.type ++
      (" " : Text) ++ field.name ++ (";" : Text)) = false := opensDeclaration_append (by decide)
  have hline : Text.outdent (indent ++ ("private " : Text) ++ java.typeText field.type ++
      (" " : Text) ++ field.name ++ (";" : Text)) =
        ("private " : Text) ++ (java.typeText field.type ++ .scalar ' ' :: field.name) ++
          (";" : Text) := by
    simp only [List.append_assoc]
    rw [Text.outdent_append (mem_indent hindent)]
    rfl
  -- The reader tries the line of a key first.
  have hother : Text.between? "@JsonProperty(\"" "\")"
      (("private " : Text) ++ (java.typeText field.type ++ .scalar ' ' :: field.name) ++
        (";" : Text)) = none := rfl
  have hspace : .scalar ' ' ∉ java.typeText field.type :=
    notMem_typeText java (fun name hname => (href name hname).1) (by decide) (by decide)
  simp only [readLine, between?_eq_none_of_not_opens hopens, hline, hother, Text.between?_marked,
    Text.cut_append hspace, readType_typeText href]

/-- **The lines of a field are read back.** -/
theorem foldl_fieldLines (target : Target) (hindent : settings.indent = .ok indent)
    {field : Field} (hname : IsName field.name)
    (href : ∀ name, field.type.reference? = some name → target.IsReference name)
    (d : Declaration) (ds : List Declaration) :
    (target.fieldLines indent field).foldl target.readLine ⟨d :: ds, []⟩ =
      ⟨d.addField (target.shownField field) :: ds, []⟩ := by
  cases target with
  | typescript =>
    show typescript.readLine _ _ = _
    rw [readLine_interfaceField hindent hname href]
    rfl
  | java =>
    show java.readLine (java.readLine _ _) _ = _
    rw [readLine_keyLine hindent, readLine_memberLine hindent href]
    rfl

/-! ## Declarations -/

/-- All lines of a kind that says nothing are passed over. -/
theorem foldl_of_passed {target : Target} {ls : List Text}
    (h : ∀ l ∈ ls, ∀ r, target.readLine r l = r) (r : Reading) :
    ls.foldl target.readLine r = r := by
  induction ls with
  | nil => rfl
  | cons l ls ih =>
    obtain ⟨hl, hls⟩ := List.forall_mem_cons.mp h
    rw [List.foldl_cons, hl, ih hls]

/-- Blocks are read one after another. -/
theorem foldl_intercalate (target : Target) (blocks : List (List Text)) (r : Reading) :
    ([[]].intercalate blocks).foldl target.readLine r =
      blocks.foldl (fun r block => block.foldl target.readLine r) r := by
  induction blocks generalizing r with
  | nil => rfl
  | cons b blocks ih =>
    cases blocks with
    | nil => simp
    | cons b' blocks =>
      rw [List.intercalate_cons_cons, List.foldl_append, List.foldl_append, ih]
      simp only [List.foldl_cons, List.foldl_nil, readLine_of_empty]

/-- The imports and annotations of classes begin with other words than their members do. -/
theorem readLine_classImportLine (r : Reading) (statement : Text) :
    java.readLine r (classImportLine statement) = r := by
  have hopens : opensDeclaration (classImportLine statement) = false :=
    opensDeclaration_append (by decide)
  simp only [readLine, between?_eq_none_of_not_opens hopens]
  rfl

theorem readLine_annotationLine {tag : Text} (ha : tag ∈ classAnnotations settings)
    (r : Reading) : java.readLine r (annotationLine tag) = r := by
  simp only [readLine, between?_eq_none_of_not_opens (opensDeclaration_annotationLine ha)]
  rcases mem_classAnnotations ha with ha | ⟨policy, _, rfl⟩
  · have hall : ∀ tag ∈ lombokAnnotations,
        Text.between? "@JsonProperty(\"" "\")" (annotationLine tag).outdent = none ∧
          Text.between? "private " ";" (annotationLine tag).outdent = none := by decide
    obtain ⟨hkey, hmember⟩ := hall tag ha
    simp only [hkey, hmember]
  · rfl

theorem foldl_headerLines (settings : Settings) (imports : List Text) (r : Reading) :
    (headerLines settings imports).foldl java.readLine r = r := by
  refine foldl_of_passed (fun l hl r => ?_) r
  rcases List.mem_cons.mp hl with rfl | hl
  · have hopens : opensDeclaration (("package " : Text) ++ packageOf settings ++ (";" : Text)) =
        false := opensDeclaration_append (by decide)
    simp only [readLine, between?_eq_none_of_not_opens hopens]
    rfl
  · rcases List.mem_cons.mp hl with rfl | hl
    · exact readLine_of_empty java r
    · obtain ⟨statement, _, rfl⟩ := List.mem_map.mp hl
      exact readLine_classImportLine r statement

/-- A declaration whose names are read back. -/
structure IsReadable (target : Target) (d : Declaration) : Prop where
  field : ∀ field ∈ d.fields, IsName field.name
  reference : ∀ field ∈ d.fields, ∀ name, field.type.reference? = some name →
    target.IsReference name
  filled : d.Filled

theorem reference?_shownType (target : Target) (type : FieldType) :
    (target.shownType type).reference? = type.reference? := by
  induction type with
  | list element ih => exact ih
  | number => cases target <;> rfl
  | string | boolean | any | ref => rfl

/-- What is shown of a declaration is filled with what is shown of its fields. -/
theorem foldl_addField_shown (target : Target) {d : Declaration} (h : d.Filled) :
    (d.fields.map target.shownField).foldl Declaration.addField { name := d.name } =
      target.shown d := by
  induction h with
  | empty name => rfl
  | @addField d field _ ih =>
    show ((d.fields ++ [field]).map target.shownField).foldl Declaration.addField
      { name := d.name } = _
    rw [List.map_append, List.foldl_append, ih]
    simp [Declaration.addField, shown, shownField, reference?_shownType]

/-- The fields of a declaration are read back. -/
theorem foldl_flatMap_fieldLines (target : Target) (hindent : settings.indent = .ok indent)
    {fields : List Field} (hnames : ∀ field ∈ fields, IsName field.name)
    (hrefs : ∀ field ∈ fields, ∀ name, field.type.reference? = some name → target.IsReference name)
    (d : Declaration) (ds : List Declaration) :
    fields.foldl (fun r field => (target.fieldLines indent field).foldl target.readLine r)
        ⟨d :: ds, []⟩ =
      ⟨(fields.map target.shownField).foldl Declaration.addField d :: ds, []⟩ := by
  induction fields generalizing d with
  | nil => rfl
  | cons field fields ih =>
    obtain ⟨hname, hnames⟩ := List.forall_mem_cons.mp hnames
    obtain ⟨href, hrefs⟩ := List.forall_mem_cons.mp hrefs
    rw [List.foldl_cons, foldl_fieldLines target hindent hname href, ih hnames hrefs]
    rfl

/-- **The lines of a declaration are read back.** -/
theorem foldl_unitLines (target : Target) (hindent : settings.indent = .ok indent)
    {d : Declaration} (hd : target.IsReadable d) (r : Reading) :
    (target.unitLines settings indent d).foldl target.readLine r =
      ⟨target.shown d :: r.declarations, []⟩ := by
  have hfields := foldl_flatMap_fieldLines target hindent hd.field hd.reference { name := d.name }
    r.declarations
  rw [foldl_addField_shown target hd.filled] at hfields
  cases target with
  | typescript =>
    rw [unitLines, List.foldl_cons, readLine_declarationLine, List.foldl_append,
      List.foldl_flatMap, Reading.openDeclaration, hfields]
    rfl
  | java =>
    have hopening : ((classAnnotations settings).map annotationLine ++
        [java.declarationLine settings d.name]).foldl java.readLine r = r.openDeclaration d.name := by
      have hannotations : ∀ l ∈ (classAnnotations settings).map annotationLine, ∀ r,
          java.readLine r l = r := by
        intro l hl r
        obtain ⟨tag, ha, rfl⟩ := List.mem_map.mp hl
        exact readLine_annotationLine ha r
      rw [List.foldl_append, foldl_of_passed hannotations]
      exact readLine_declarationLine java settings r d.name
    rw [unitLines, foldl_intercalate, List.foldl_cons, hopening, List.foldl_append, List.foldl_map,
      Reading.openDeclaration, hfields]
    rfl

/-! ## Documents -/

theorem foldl_units (target : Target) (hindent : settings.indent = .ok indent)
    {ds : List Declaration} (hds : ∀ d ∈ ds, target.IsReadable d) (read : List Declaration) :
    ds.foldl (fun r d => (target.unitLines settings indent d).foldl target.readLine r) ⟨read, []⟩ =
      ⟨(ds.map target.shown).reverse ++ read, []⟩ := by
  induction ds generalizing read with
  | nil => rfl
  | cons d ds ih =>
    obtain ⟨hd, hds⟩ := List.forall_mem_cons.mp hds
    rw [List.foldl_cons, foldl_unitLines target hindent hd, ih hds]
    simp

/-- **What was written is read back.** -/
theorem read_documentLines (target : Target) (hindent : settings.indent = .ok indent)
    {ds : List Declaration} (hds : ∀ d ∈ ds, target.IsReadable d)
    (hneat : Text.Neat (target.documentLines settings indent ds)) :
    target.read (Text.ofLines (target.documentLines settings indent ds)) = ds.map target.shown := by
  have hopening : (target.openingBlocks settings ds).foldl
      (fun r block => block.foldl target.readLine r) {} = {} := by
    cases target with
    | typescript => rfl
    | java => exact foldl_headerLines settings _ {}
  have hunits := foldl_units target hindent hds []
  rw [read, hneat.lines_ofLines, documentLines, foldl_intercalate, List.foldl_append, hopening,
    List.foldl_map, hunits]
  simp

theorem shownType_java (type : FieldType) : java.shownType type = type := by
  induction type with
  | list element ih => exact congrArg FieldType.list ih
  | string | number | boolean | any | ref => rfl

/-- Of a class everything is shown. -/
theorem shown_java (d : Declaration) : java.shown d = d := by
  have hfields : d.fields.map java.shownField = d.fields := by
    conv_rhs => rw [← List.map_id d.fields]
    refine List.map_congr_left fun field _ => ?_
    rw [shownField, shownType_java]
    rfl
  rw [shown, hfields]

end Target

theorem Declaration.NamedBy.isReadable {target : Target} {suffix : Text} {d : Declaration}
    (h : d.NamedBy { convention := target.convention, suffix }) : target.IsReadable d := by
  refine ⟨h.clean.field, fun field hfield name hname => ?_, h.filled⟩
  obtain ⟨hint, fromKey, rfl⟩ := h.reference field hfield name hname
  exact target.isReference_declarationName suffix hint fromKey

end SampleTypes
