import SampleTypes.Naming.Words
/-!
# Naming conventions — how a target language names declarations

A declaration is named after the hint under which its shape was met: a key, or the name of the root.
The name is the hint in Pascal case between the convention's `lead` and `trail`, with the user's
suffix before the trail. A key always gets both decorations, so that `IBAN` becomes `IIBAN`; a root
name that carries one already is kept as its user wrote it.
-/

set_option autoImplicit false

namespace SampleTypes

/-- The naming convention of a target language. -/
structure NamingConvention where
  /-- What stands before a declaration's name. -/
  lead : Text := []
  /-- What stands after a declaration's name. -/
  trail : Text := []
  /-- The words that no field may be named. -/
  reserved : List Text := []

namespace NamingConvention

/-- Whether a name carries the lead already: it starts with it, and an upper-case letter follows. -/
def carriesLead (convention : NamingConvention) (name : Text) : Bool :=
  !convention.lead.isEmpty && convention.lead.isPrefixOf name &&
    match name.drop convention.lead.length with
    | c :: _ => c.isUpper
    | [] => false

/-- The hint in Pascal case, or `Field` for a hint without words. -/
def baseName (hint : Text) : Text :=
  if hint.pascalCase.isEmpty then ("Field" : Text) else hint.pascalCase

/-- The name with the lead before it, unless it is a root name that carries the lead. -/
def addLead (convention : NamingConvention) (fromKey : Bool) (name : Text) : Text :=
  if fromKey || !convention.carriesLead name then convention.lead ++ name else name

/-- The name with the trail after it, unless it is a root name that ends in the trail. -/
def addTrail (convention : NamingConvention) (fromKey : Bool) (name : Text) : Text :=
  if fromKey || !convention.trail.isSuffixOf name then name ++ convention.trail else name

/-- The name of a declaration met under a hint. `fromKey` says that the hint is a key of the sample
and not the name of the root. -/
def declarationName (convention : NamingConvention) (suffix : Text) (hint : Text)
    (fromKey : Bool) : Text :=
  -- The lead is looked for before the suffix is there, the trail after it.
  Text.guardDigit
    (convention.addTrail fromKey (convention.addLead fromKey (baseName hint) ++ suffix.pascalCase))

end NamingConvention

end SampleTypes
