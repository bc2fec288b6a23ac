import SampleTypes.CommandLine.Run
import SampleTypes.Proofs.Files.Reading

/-!
# How loading a sample fails

A run reports why a sample cannot be loaded, for all errors but two: an address that is refused outright is
refused before anything is made of it, and a path that is too long cannot even be asked for. Everything
else that may go wrong with files and in the net ends in an error that is reported.

> **Loading gives a text or an error that is reported, iff no refused address and no overlong path is
> named.** From an address that is refused, or that lacks a scheme or an authority, nothing is fetched.
-/

set_option autoImplicit false

namespace SampleTypes

/-! ## Addresses -/

namespace Address

variable {address authority : Text}

/-- What the address is taken apart into: its scheme, and its authority. -/
def partsOf (address : Text) : Text × Text :=
  let (scheme, rest) := splitScheme (clean address)
  (scheme, authorityOf rest)

/-- An address is refused outright. -/
def IsRefused (address : Text) : Prop :=
  ∃ fault, checkAuthority (partsOf address).2 = .error fault

/-- An address has a scheme and an authority. -/
def IsWhole (address : Text) : Prop := (partsOf address).1 ≠ [] ∧ (partsOf address).2 ≠ []

theorem isComplete_eq_error_iff {fault : AddressFault} :
    isComplete address = .error fault ↔ checkAuthority (partsOf address).2 = .error fault := by
  rw [isComplete, bind_eq_error_iff]
  exact or_iff_left (by rintro ⟨_, -, h⟩; cases h)

theorem isComplete_eq_ok_iff {complete : Bool} : isComplete address = .ok complete ↔
    ¬ IsRefused address ∧ (complete = true ↔ IsWhole address) := by
  have hok : ¬ IsRefused address ↔ checkAuthority (partsOf address).2 = .ok () := by
    rw [IsRefused]
    cases checkAuthority (partsOf address).2 <;> simp
  have hwhole : (!(partsOf address).1.isEmpty && !(partsOf address).2.isEmpty) = complete ↔
      (complete = true ↔ IsWhole address) := by
    rw [Bool.eq_iff_iff, Bool.and_eq_true, Bool.not_eq_true', Bool.not_eq_true',
      List.isEmpty_eq_false_iff, List.isEmpty_eq_false_iff]
    exact Iff.comm
  rw [hok, ← hwhole, isComplete, bind_eq_ok_iff]
  exact ⟨fun ⟨_, hcheck, h⟩ => ⟨hcheck, Except.ok.inj h⟩, fun ⟨hcheck, h⟩ => ⟨(), hcheck, congrArg _ h⟩⟩

/-- A bracket of one kind without one of the other has no partner. -/
theorem checkAuthority_of_unbalanced
    (h : ¬ (CodePoint.scalar '[' ∈ authority ↔ CodePoint.scalar ']' ∈ authority)) :
    checkAuthority authority = .error .misplacedBrackets := by
  have hne : authority.contains (.scalar '[') ≠ authority.contains (.scalar ']') := by
    rwa [ne_eq, Bool.eq_iff_iff, List.contains_iff_mem, List.contains_iff_mem]
  rw [checkAuthority]
  simp only [bne_iff_ne.mpr hne]
  rfl

/-- An authority without brackets and confusable characters is not refused. -/
theorem checkAuthority_of_plain (hopening : CodePoint.scalar '[' ∉ authority)
    (hclosing : CodePoint.scalar ']' ∉ authority)
    (hplain : ∀ c ∈ authority, inRanges confusableRanges c.value = false) :
    checkAuthority authority = .ok () := by
  have hany : (authority.any fun c => inRanges confusableRanges c.value) = false :=
    List.any_eq_false.mpr fun c hc => by simp [hplain c hc]
  rw [checkAuthority]
  simp [hopening, hclosing, hany, pure, Except.pure]

end Address

/-! ## Errors -/

/-- A run reports the error. -/
def LoadError.IsReported (error : LoadError) : Prop := (RunFailure.load error).isReported = true

namespace Loading

variable {files : FileTree} {path : FilePath} {address : Text}

/-- Loading ends with a text, or with an error that is reported. -/
def EndsWell (loading : Loading) : Prop :=
  (∃ loaded, loading.result = .ok loaded) ∨
    ∃ error, loading.result = .error error ∧ error.IsReported

theorem endsWell_of_error {loading : Loading} {error : LoadError} (h : loading.result = .error error) :
    loading.EndsWell ↔ error.IsReported := by
  simp [EndsWell, h]

theorem endsWell_fromPresentFile (files : FileTree) (path : FilePath) (begun : LogRecord) :
    (fromPresentFile files path begun).EndsWell := by
  unfold fromPresentFile
  dsimp only
  split
  · exact Or.inr ⟨_, rfl, rfl⟩
  · exact Or.inl ⟨_, rfl⟩

theorem endsWell_fromFile_iff : (fromFile files path).EndsWell ↔ ¬ files.Overlong path := by
  unfold fromFile
  cases hpresent : files.isPresent path with
  | error fault =>
    have hlong := (FileTree.isPresent_eq_error_iff.mp hpresent).2
    exact iff_of_false (mt (endsWell_of_error rfl).mp nofun) (not_not_intro hlong)
  | ok there =>
    have hshort : ¬ files.Overlong path := by
      intro hlong
      rw [FileTree.isPresent_eq_error_iff.mpr ⟨rfl, hlong⟩] at hpresent
      cases hpresent
    refine iff_of_true ?_ hshort
    cases there with
    | false => exact Or.inr ⟨_, rfl, rfl⟩
    | true => exact endsWell_fromPresentFile files path _

theorem fromAnswer_outcome (address : Text) (answer : FetchAnswer) :
    (∃ loaded, (fromAnswer address answer).1 = .ok loaded) ∨
      ∃ error, (fromAnswer address answer).1 = .error error ∧ error.IsReported := by
  cases answer with
  | response status contentType text =>
    rw [fromAnswer]
    split
    · exact Or.inr ⟨_, rfl, rfl⟩
    · exact Or.inl ⟨_, rfl⟩
  | timeout => exact Or.inr ⟨_, rfl, rfl⟩
  | noConnection reason => exact Or.inr ⟨_, rfl, rfl⟩
  | failure reason => exact Or.inr ⟨_, rfl, rfl⟩

/-- What becomes of an address: it is refused, found incomplete, or fetched from once. -/
inductive AddressOutcome (timeout : Option Int) (address : Text) (loading : Loading) : Prop where
  | refused (fault : AddressFault)
      (hrefused : Address.checkAuthority (Address.partsOf address).2 = .error fault)
      (hresult : loading.result = .error (.badAddress fault)) (hrequests : loading.requests = [])
  | incomplete (hfit : ¬ Address.IsRefused address) (hincomplete : ¬ Address.IsWhole address)
      (hresult : loading.result = .error (.incompleteAddress address))
      (hrequests : loading.requests = [])
  | fetched (hfit : ¬ Address.IsRefused address) (hwhole : Address.IsWhole address)
      (hends : loading.EndsWell) (hrequests : loading.requests = [(address, timeout)])

theorem fromAddress_outcome (fetch : Text → Option Int → FetchAnswer) (timeout : Option Int)
    (address : Text) : AddressOutcome timeout address (fromAddress fetch timeout address) := by
  unfold fromAddress
  dsimp only
  cases hcomplete : Address.isComplete address with
  | error fault => exact .refused fault (Address.isComplete_eq_error_iff.mp hcomplete) rfl rfl
  | ok complete =>
    obtain ⟨hfit, hwhole⟩ := Address.isComplete_eq_ok_iff.mp hcomplete
    cases complete with
    | false => exact .incomplete hfit (fun h => Bool.false_ne_true (hwhole.mpr h)) rfl rfl
    | true => exact .fetched hfit (hwhole.mp rfl) (fromAnswer_outcome address _) rfl

theorem AddressOutcome.endsWell_iff {timeout : Option Int} {loading : Loading}
    (h : AddressOutcome timeout address loading) : loading.EndsWell ↔ ¬ Address.IsRefused address := by
  cases h with
  | refused fault hrefused hresult =>
    exact iff_of_false (mt (endsWell_of_error hresult).mp nofun) (not_not_intro ⟨fault, hrefused⟩)
  | incomplete hfit _ hresult => exact iff_of_true ((endsWell_of_error hresult).mpr rfl) hfit
  | fetched hfit _ hends => exact iff_of_true hends hfit

/-- What loading does not report: a refused address, and a path that is too long. -/
inductive Escapes (files : FileTree) (source : SampleSource) : Prop where
  | refusedAddress {address : Text} (hfile : source.namedFile? = none)
      (haddress : source.namedAddress? = some address) (hrefused : Address.IsRefused address)
  | overlongPath {file : Text} (hfile : source.namedFile? = some file)
      (haddress : source.namedAddress? = none) (hlong : files.Overlong (.ofText file))

/-- **Loading ends with a text or with an error that is reported, iff no refused address is named, and no
path that is too long.** From an address that is refused or lacks a scheme or an authority nothing is
fetched, and one that only lacks something is reported. -/
theorem endsWell_run_iff (surroundings : Surroundings) (source : SampleSource) :
    ((run surroundings source).EndsWell ↔ ¬ Escapes surroundings.files source) ∧
      ∀ address, source.namedFile? = none → source.namedAddress? = some address →
        AddressOutcome source.timeout address (run surroundings source) := by
  unfold run
  rcases hfile : source.namedFile? with _ | file <;>
    rcases haddress : source.namedAddress? with _ | address
  · -- Standard input is always there.
    refine ⟨iff_of_true (Or.inl ⟨_, rfl⟩) ?_, nofun⟩
    rintro (⟨-, h, -⟩ | ⟨h, -, -⟩)
    · cases haddress.symm.trans h
    · cases hfile.symm.trans h
  · have houtcome := fromAddress_outcome surroundings.fetch source.timeout address
    refine ⟨houtcome.endsWell_iff.trans (not_congr ⟨.refusedAddress hfile haddress, ?_⟩), ?_⟩
    · rintro (⟨-, h, hrefused⟩ | ⟨h, -, -⟩)
      · rwa [Option.some.inj (haddress.symm.trans h)]
      · cases hfile.symm.trans h
    · rintro _ - ⟨⟩
      exact houtcome
  · refine ⟨endsWell_fromFile_iff.trans (not_congr ⟨.overlongPath hfile haddress, ?_⟩), nofun⟩
    rintro (⟨h, -, -⟩ | ⟨h, -, hlong⟩)
    · cases hfile.symm.trans h
    · rwa [Option.some.inj (hfile.symm.trans h)]
  · refine ⟨iff_of_true (Or.inr ⟨_, rfl, rfl⟩) ?_, nofun⟩
    rintro (⟨h, -, -⟩ | ⟨-, h, -⟩)
    · cases hfile.symm.trans h
    · cases haddress.symm.trans h

/-- Without a scheme nothing is fetched, and the address is reported. -/
theorem endsWell_run_iff_noScheme :
    let source : SampleSource := { address := some "//example.com/a.json" }
    (source.namedFile? = none ∧ source.namedAddress? = some ("//example.com/a.json" : Text)) ∧
      (run {} source).result = .error (.incompleteAddress "//example.com/a.json") ∧
        (run {} source).requests = [] := by
  intro source
  refine ⟨⟨rfl, rfl⟩, ?_⟩
  cases (endsWell_run_iff {} source).2 "//example.com/a.json" rfl rfl with
  | refused fault hrefused =>
    rw [Address.checkAuthority_of_plain (by decide) (by decide) (by decide)] at hrefused
    cases hrefused
  | incomplete _ _ hresult hrequests => exact ⟨hresult, hrequests⟩
  | fetched _ hwhole => exact absurd rfl hwhole.1

/-- A bracket without a partner makes loading fail in a way that is not reported. -/
theorem not_endsWell_run_unbalanced :
    let source : SampleSource := { address := some "http://[x" }
    source.namedFile? = none ∧ source.namedAddress? = some ("http://[x" : Text) ∧
      (run {} source).result = .error (.badAddress .misplacedBrackets) ∧
        (run {} source).requests = [] ∧ ¬ (run {} source).EndsWell := by
  intro source
  have hcheck : Address.checkAuthority (Address.partsOf "http://[x").2 = .error .misplacedBrackets :=
    Address.checkAuthority_of_unbalanced (by decide)
  have houtcome : AddressOutcome source.timeout "http://[x" (run {} source) :=
    fromAddress_outcome (Surroundings.fetch {}) _ _
  refine ⟨rfl, rfl, ?_⟩
  cases houtcome with
  | refused fault hrefused hresult hrequests =>
    obtain rfl : fault = .misplacedBrackets := Except.error.inj (hrefused.symm.trans hcheck)
    exact ⟨hresult, hrequests, mt (endsWell_of_error hresult).mp nofun⟩
  | incomplete hfit => exact absurd ⟨_, hcheck⟩ hfit
  | fetched hfit => exact absurd ⟨_, hcheck⟩ hfit

end Loading

end SampleTypes
