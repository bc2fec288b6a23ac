import SampleTypes.Json.Spelling
import SampleTypes.Text.Split
/-!
# Addresses in the net

Before a text is fetched, its address is looked at: it needs a scheme and an authority, which is the host
with the user before it and the port after it. Some addresses are refused outright: those with a bracket that
has no partner or stands where none may, those whose authority has brackets but whose host is no IPv6 address,
and those with a character in the authority that normalises to one of the separators.
-/

set_option autoImplicit false

namespace SampleTypes

/-- Why an address is refused outright. -/
inductive AddressFault where
  /-- A bracket has no partner, or something stands between a bracket and the separator beside it. -/
  | misplacedBrackets
  /-- The host claims to be a future kind of address, but is not spelled so. -/
  | notFuture
  | bracketedIPv4
  | notAnAddress (host : Text)
  /-- The authority holds a character that normalises to a separator. -/
  | confusable (authority : Text)
deriving DecidableEq, Repr

def AddressFault.message : AddressFault → Text
  | misplacedBrackets => "Invalid IPv6 URL"
  | notFuture => "IPvFuture address is invalid"
  | bracketedIPv4 => "An IPv4 address cannot be in brackets"
  | notAnAddress host => host.quoted ++ (" does not appear to be an IPv4 or IPv6 address" : Text)
  | confusable authority =>
    ("netloc '" : Text) ++ authority ++ ("' contains invalid characters under NFKC normalization" : Text)

namespace Address

def isOneOf (characters : String) : CodePoint → Bool
  | .scalar c => characters.toList.contains c
  | .surrogate _ => false

/-- Whether a code point is an ASCII digit. -/
def isDecimal : CodePoint → Bool
  | .scalar c => c.isDigit
  | .surrogate _ => false

def isHexadecimal : CodePoint → Bool := isOneOf "0123456789abcdefABCDEF"

/-! ## Addresses by number -/

/-- Whether a text is one of the four numbers of an IPv4 address: up to 255, without leading zeros. -/
def isOctet (t : Text) : Bool :=
  !t.isEmpty && t.length ≤ 3 && t.all isDecimal && (t.length = 1 || t.head? != some (.scalar '0')) &&
    t.foldl (fun n c => 10 * n + (c.value - 0x30)) 0 ≤ 255

def isIPv4 (t : Text) : Bool :=
  let octets := t.splitOn (.scalar '.')
  octets.length = 4 && octets.all isOctet

/-- Whether a text is one of the eight groups of an IPv6 address. -/
def isGroup (t : Text) : Bool := !t.isEmpty && t.length ≤ 4 && t.all isHexadecimal

/-- The pieces of an address between colons, with an IPv4 address at the end counted as two groups, or
`none` if what stands there for one is none. -/
def groups? (t : Text) : Option (List Text) :=
  let pieces := t.splitOn (.scalar ':')
  let last := pieces.getLastD []
  if last.contains (.scalar '.') then
    if isIPv4 last then some (pieces.dropLast ++ [("0" : Text), ("0" : Text)]) else none
  else some pieces

/-- Whether pieces between colons make up eight groups. At one place in the middle a piece may be empty:
there as many groups of zeros are left out as are missing. At an end a piece may be empty only together
with that place. -/
def isGroupList (pieces : List Text) : Bool :=
  let inner := (pieces.drop 1).dropLast
  let gaps := (inner.filter List.isEmpty).length
  if gaps = 0 then pieces.length = 8 && pieces.all isGroup
  else
    let before := pieces.takeWhile fun piece => !piece.isEmpty
    -- Two colons at an end leave two empty pieces: the gap, and one beside it that counts for nothing.
    let opening := (pieces.head?.getD []).isEmpty
    let gap := if opening then 1 else before.length
    let high := if opening then [] else pieces.take gap
    let rest := pieces.drop (gap + 1)
    let closing := (rest.getLastD []).isEmpty
    let low := if closing then [] else rest
    gaps = 1 && (!opening || ((pieces.drop 1).headD []).isEmpty) && (!closing || rest.length = 1) &&
      high.length + low.length ≤ 7 && high.all isGroup && low.all isGroup

/-- Whether a text is an IPv6 address, perhaps with a zone after a percent sign. -/
def isIPv6 (t : Text) : Bool :=
  let percent : CodePoint := .scalar '%'
  let number := t.takeWhile (· != percent)
  let zone := (t.dropWhile (· != percent)).drop 1
  let zoned := t.contains percent
  (!zoned || (!zone.isEmpty && !zone.contains percent)) &&
    match groups? number with
    | some pieces => 3 ≤ pieces.length && pieces.length ≤ 9 && isGroupList pieces
    | none => false

/-- Whether a text is spelled as an address of a future kind: `v`, hexadecimal digits, a point, and
something after it. -/
def isFuture (t : Text) : Bool :=
  let digits := (t.drop 1).takeWhile isHexadecimal
  match (t.drop 1).drop digits.length with
  | point :: rest => !digits.isEmpty && point = .scalar '.' && !rest.isEmpty
  | [] => false

/-- Checks a host for which only an IPv6 address or one of a future kind will do. -/
def checkByNumber (host : Text) : Except AddressFault Unit :=
  if host.head? = some (.scalar 'v') then
    if isFuture host then .ok () else .error .notFuture
  else if isIPv4 host then .error .bracketedIPv4
  else if isIPv6 host then .ok ()
  else .error (.notAnAddress host)

/-! ## Scheme and host -/

/-- The characters beyond ASCII whose compatibility form holds one of `/`, `?`, `#`, `@` and `:`. -/
def confusableRanges : List (Nat × Nat) :=
  [(0x2047, 0x2049), (0x2100, 0x2101), (0x2105, 0x2106), (0x2A74, 0x2A74), (0xFE13, 0xFE13),
   (0xFE16, 0xFE16), (0xFE55, 0xFE56), (0xFE5F, 0xFE5F), (0xFE6B, 0xFE6B), (0xFF03, 0xFF03),
   (0xFF0F, 0xFF0F), (0xFF1A, 0xFF1A), (0xFF1F, 0xFF20)]

def isSchemeChar : CodePoint → Bool
  | .scalar c => c.isAlphanum || c = '+' || c = '-' || c = '.'
  | .surrogate _ => false

/-- An address without the control characters and spaces at its start and without tabs and line ends. -/
def clean (t : Text) : Text :=
  (t.dropWhile fun c => c.value ≤ 0x20).filter fun c => !isOneOf "\t\r\n" c

/-- The scheme of an address and what follows its colon; without a scheme, the whole address. -/
def splitScheme (t : Text) : Text × Text :=
  let scheme := t.takeWhile (· != .scalar ':')
  let starts := match scheme with
    | .scalar c :: _ => c.isAlpha
    | _ => false
  if starts && scheme.length < t.length && scheme.all isSchemeChar then
    (scheme, t.drop (scheme.length + 1))
  else ([], t)

/-- The authority after two slashes, up to the path, the query or the fragment. -/
def authorityOf (rest : Text) : Text :=
  match rest with
  | .scalar '/' :: .scalar '/' :: rest => rest.takeWhile fun c => !isOneOf "/?#" c
  | _ => []

/-- The host in an authority with its port, after the user. -/
def afterUser (authority : Text) : Text :=
  (authority.reverse.takeWhile (· != .scalar '@')).reverse

/-- Checks the host in an authority that holds brackets. The brackets need not be those of the host: if they
stand in the user, the host has none, and still has to be an address. -/
def checkHost (authority : Text) : Except AddressFault Unit :=
  let place := afterUser authority
  let before := place.takeWhile (· != .scalar '[')
  match place.drop before.length with
  | [] => checkByNumber (place.takeWhile (· != .scalar ':'))
  | _ :: bracketed =>
    let host := bracketed.takeWhile (· != .scalar ']')
    let port := bracketed.drop (host.length + 1)
    -- Nothing may stand before the host, and nothing but a port after it.
    if before.isEmpty && (port.isEmpty || port.head? == some (.scalar ':')) then checkByNumber host
    else .error .misplacedBrackets

/-- Checks the brackets and the characters of an authority. -/
def checkAuthority (authority : Text) : Except AddressFault Unit := do
  let opening := authority.contains (.scalar '[')
  let closing := authority.contains (.scalar ']')
  if opening != closing then throw .misplacedBrackets
  if opening then checkHost authority
  if authority.any fun c => inRanges confusableRanges c.value then throw (.confusable authority)

/-- Whether an address has a scheme and an authority. -/
def isComplete (t : Text) : Except AddressFault Bool := do
  let (scheme, rest) := splitScheme (clean t)
  let authority := authorityOf rest
  checkAuthority authority
  return !scheme.isEmpty && !authority.isEmpty

end Address

end SampleTypes
