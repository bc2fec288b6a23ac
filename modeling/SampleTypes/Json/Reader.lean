import SampleTypes.Json.Basic
import SampleTypes.Number.Binary
/-!
# Reading JSON text

A reader of JSON text that says, for a text that is none, what is wrong and where. Each step takes
the text that is left and gives the value read with the text after it; a fault is given with the
text that starts at the offending character, from which `Json.read` works out offset, line and
column.

Three limits are part of the format: an integer may have at most 4300 digits, arrays and objects may
be nested at most `nestingLimit` levels deep, and the constants `NaN`, `Infinity` and `-Infinity` are
numbers in the lenient dialect only.
-/

set_option autoImplicit false

namespace SampleTypes.Json

/-- What is wrong at a place of a text. -/
inductive Fault where
  | expectingValue
  | expectingName
  | expectingColon
  | expectingComma
  | unterminatedString
  | controlCharacter
  | invalidEscape
  | invalidUnicodeEscape
  | extraData
  | byteOrderMark
deriving DecidableEq, Repr

/-- A place in a text, counted in characters. -/
structure Position where
  /-- The number of characters before it. -/
  offset : Nat
  /-- The line, counted from one. -/
  line : Nat
  /-- The column, counted from one. -/
  column : Nat
deriving DecidableEq, Repr

/-- What holds other values. -/
inductive Container where
  | array
  | object
deriving DecidableEq, Repr

/-- Why a text could not be read; `α` says how a place is given. -/
inductive Refusal (α : Type) where
  | malformed (fault : Fault) (place : α)
  /-- One of the constants `NaN`, `Infinity` and `-Infinity` stands where the strict dialect knows
  no number. -/
  | constant (name : String)
  | integerTooLong (digits : Nat)
  /-- Arrays and objects are nested too deep; the one that is too much is given. -/
  | nestedTooDeep (container : Container)
deriving DecidableEq, Repr

/-- Which numbers a text may hold. -/
inductive Dialect where
  /-- JSON as standardised. -/
  | strict
  /-- Also the constants `NaN`, `Infinity` and `-Infinity`. -/
  | lenient
deriving DecidableEq, Repr

/-- The greatest number of digits of an integer. -/
def integerDigitLimit : Nat := 4300

/-- The greatest number of arrays and objects around a value, itself included. -/
def nestingLimit : Nat := 990

/-- The outcome of a step: a value with the text after it, or a refusal with the text at its place. -/
abbrev Step (α : Type) := Except (Refusal (List Char)) (α × List Char)

/-- Refuses the text at a place. -/
def faultAt {α : Type} (fault : Fault) (place : List Char) : Step α :=
  .error (.malformed fault place)

/-- Space, tab, line feed and carriage return may stand between tokens. -/
def isSpace (c : Char) : Bool := c = ' ' || c = '\t' || c = '\n' || c = '\r'

/-- The text without the space at its start. -/
def skipSpace : List Char → List Char
  | [] => []
  | c :: s => if isSpace c then skipSpace s else c :: s

/-! ## Strings -/

/-- The value of a hexadecimal digit. -/
def hexDigit? (c : Char) : Option Nat :=
  if '0' ≤ c ∧ c ≤ '9' then some (c.toNat - '0'.toNat)
  else if 'a' ≤ c ∧ c ≤ 'f' then some (c.toNat - 'a'.toNat + 10)
  else if 'A' ≤ c ∧ c ≤ 'F' then some (c.toNat - 'A'.toNat + 10)
  else none

/-- The number that four hexadecimal digits spell. -/
def hexQuad? (a b c d : Char) : Option Nat := do
  return ((← hexDigit? a) * 16 + (← hexDigit? b)) * 256 + (← hexDigit? c) * 16 + (← hexDigit? d)

/-- The code point of an escape of one letter. -/
def letterEscape? : Char → Option Char
  | '"' => some '"'
  | '\\' => some '\\'
  | '/' => some '/'
  | 'b' => some '\x08'
  | 'f' => some '\x0c'
  | 'n' => some '\n'
  | 'r' => some '\r'
  | 't' => some '\t'
  | _ => none

/-- Adds the code point of a `\u` escape to the code points read so far, the last one first. A low
surrogate right after a high one makes one code point beyond `U+FFFF` with it. -/
def pushEscaped (read : Text) (n : Nat) : Text :=
  match read with
  | .surrogate high :: earlier =>
    if high.val < 0x400 ∧ 0xDC00 ≤ n ∧ n < 0xE000 then
      .ofNat (0x10000 + high.val * 0x400 + (n - 0xDC00)) :: earlier
    else .ofNat n :: read
  | read => .ofNat n :: read

/-- The rest of a string after its opening quote. `opening` is the text from that quote on, where a
string without end is refused, and `read` holds the code points so far, the last one first. A `\u`
escape with which the text ends is refused as such. -/
def readStringTail (opening : List Char) (read : Text) : List Char → Step Text
  | [] => faultAt .unterminatedString opening
  | '"' :: s => .ok (read.reverse, s)
  | '\\' :: [] => faultAt .unterminatedString opening
  | '\\' :: 'u' :: s =>
    match s with
    | a :: b :: c :: d :: t =>
      match hexQuad? a b c d with
      | some n =>
        -- The string has no end here, but it is the escape that is reported.
        if t.isEmpty then faultAt .invalidUnicodeEscape ('u' :: s)
        else readStringTail opening (pushEscaped read n) t
      | none => faultAt .invalidUnicodeEscape ('u' :: s)
    | s => faultAt .invalidUnicodeEscape ('u' :: s)
  | '\\' :: c :: s =>
    match letterEscape? c with
    | some d => readStringTail opening (.scalar d :: read) s
    | none => faultAt .invalidEscape ('\\' :: c :: s)
  | c :: s =>
    if c.toNat < 0x20 then faultAt .controlCharacter (c :: s)
    else readStringTail opening (.scalar c :: read) s

/-! ## Numbers -/

/-- The number that decimal digits spell. -/
def digitsValue (digits : List Char) : Nat :=
  digits.foldl (fun n d => 10 * n + (d.toNat - '0'.toNat)) 0

/-- The digits before the point: a single zero, or digits that do not start with one. -/
def wholeDigits : List Char → List Char
  | '0' :: _ => ['0']
  | s => s.takeWhile Char.isDigit

/-- The digits after a point, if there are any, and the text after them. -/
def readFraction (s : List Char) : List Char × List Char :=
  match s with
  | '.' :: t =>
    let digits := t.takeWhile Char.isDigit
    -- A point without digits is no part of the number, and is refused by what comes after it.
    if digits.isEmpty then ([], s) else (digits, t.dropWhile Char.isDigit)
  | _ => ([], s)

/-- The sign that may stand before the digits of an exponent. -/
def readExponentSign : List Char → Bool × List Char
  | '-' :: t => (true, t)
  | '+' :: t => (false, t)
  | t => (false, t)

/-- The exponent, if there is one with a digit, and the text after it. -/
def readExponent (s : List Char) : Option Int × List Char :=
  match s with
  | c :: t =>
    if c = 'e' ∨ c = 'E' then
      let (negative, t) := readExponentSign t
      let digits := t.takeWhile Char.isDigit
      if digits.isEmpty then (none, s)
      else
        let n : Int := digitsValue digits
        (some (if negative then -n else n), t.dropWhile Char.isDigit)
    else (none, s)
  | [] => (none, s)

/-- A number. Without fraction and exponent it is an integer. -/
def readNumber (s : List Char) : Step Json :=
  let (negative, unsigned) := match s with
    | '-' :: t => (true, t)
    | t => (false, t)
  let whole := wholeDigits unsigned
  if whole.isEmpty then faultAt .expectingValue s
  else
    let (fraction, afterFraction) := readFraction (unsigned.drop whole.length)
    let (exponent?, rest) := readExponent afterFraction
    if fraction.isEmpty && exponent?.isNone then
      -- The limit is one of integers; the digits of a float may be as many as they like.
      if integerDigitLimit < whole.length then .error (.integerTooLong whole.length)
      else
        let n : Int := digitsValue whole
        .ok (.int (if negative then -n else n), rest)
    else
      .ok (.float (floatOfDecimal negative (digitsValue (whole ++ fraction))
        (exponent?.getD 0 - fraction.length)), rest)

/-- One of the three constants, a number in the lenient dialect. -/
def readConstant (dialect : Dialect) (name : String) (value : Float) (rest : List Char) :
    Step Json :=
  match dialect with
  | .strict => .error (.constant name)
  | .lenient => .ok (.float value, rest)

/-! ## Values -/

mutual

/-- The value that starts the text. At most `room` further arrays and objects may be entered; each
call and each element uses up one unit of `fuel`, of which twice the length of the text is enough. -/
def readValue (dialect : Dialect) (fuel room : Nat) (s : List Char) : Step Json :=
  match fuel with
  | 0 => faultAt .expectingValue s
  | fuel + 1 =>
    match s with
    | '"' :: t =>
      match readStringTail s [] t with
      | .error refusal => .error refusal
      | .ok (text, t) => .ok (.str text, t)
    | '{' :: t =>
      match room with
      | 0 => .error (.nestedTooDeep .object)
      | room + 1 =>
        match skipSpace t with
        | '}' :: t => .ok (.obj [], t)
        | t => readMembers dialect fuel room [] t
    | '[' :: t =>
      match room with
      | 0 => .error (.nestedTooDeep .array)
      | room + 1 =>
        match skipSpace t with
        | ']' :: t => .ok (.arr [], t)
        | t => readItems dialect fuel room [] t
    | 'n' :: 'u' :: 'l' :: 'l' :: t => .ok (.null, t)
    | 't' :: 'r' :: 'u' :: 'e' :: t => .ok (.bool true, t)
    | 'f' :: 'a' :: 'l' :: 's' :: 'e' :: t => .ok (.bool false, t)
    | 'N' :: 'a' :: 'N' :: t => readConstant dialect "NaN" (0.0 / 0.0) t
    | 'I' :: 'n' :: 'f' :: 'i' :: 'n' :: 'i' :: 't' :: 'y' :: t =>
      readConstant dialect "Infinity" (1.0 / 0.0) t
    | '-' :: 'I' :: 'n' :: 'f' :: 'i' :: 'n' :: 'i' :: 't' :: 'y' :: t =>
      readConstant dialect "-Infinity" (-1.0 / 0.0) t
    | s => readNumber s

/-- The items of an array from the one that starts the text on; `items` holds those before it, the
last one first. -/
def readItems (dialect : Dialect) (fuel room : Nat) (items : List Json) (s : List Char) :
    Step Json :=
  match fuel with
  | 0 => faultAt .expectingValue s
  | fuel + 1 =>
    match readValue dialect fuel room s with
    | .error refusal => .error refusal
    | .ok (item, t) =>
      match skipSpace t with
      | ']' :: t => .ok (.arr (item :: items).reverse, t)
      -- A value has to follow the comma, so a closing bracket right after it is no end.
      | ',' :: t => readItems dialect fuel room (item :: items) (skipSpace t)
      | t => faultAt .expectingComma t

/-- The members of an object from the one that starts the text on; `members` holds those before it,
the last one first. -/
def readMembers (dialect : Dialect) (fuel room : Nat) (members : List (Text × Json))
    (s : List Char) : Step Json :=
  match fuel with
  | 0 => faultAt .expectingValue s
  | fuel + 1 =>
    match s with
    | '"' :: t =>
      match readStringTail s [] t with
      | .error refusal => .error refusal
      | .ok (key, t) =>
        match skipSpace t with
        | ':' :: t =>
          match readValue dialect fuel room (skipSpace t) with
          | .error refusal => .error refusal
          | .ok (value, t) =>
            match skipSpace t with
            -- Of members with one key the last value counts, at the place of the first.
            | '}' :: t => .ok (.obj (membersOf ((key, value) :: members).reverse), t)
            | ',' :: t => readMembers dialect fuel room ((key, value) :: members) (skipSpace t)
            | t => faultAt .expectingComma t
        | t => faultAt .expectingColon t
    | t => faultAt .expectingName t

end

/-! ## Texts -/

/-- The place right after the given characters. -/
def Position.after (before : List Char) : Position where
  offset := before.length
  line := before.count '\n' + 1
  column := (before.reverse.takeWhile (· ≠ '\n')).length + 1

/-- Gives the place of a refusal by its position in the whole text instead of by what follows it. -/
def Refusal.locate (text : List Char) : Refusal (List Char) → Refusal Position
  | .malformed fault rest => .malformed fault (.after (text.take (text.length - rest.length)))
  | .constant name => .constant name
  | .integerTooLong digits => .integerTooLong digits
  | .nestedTooDeep container => .nestedTooDeep container

/-- Reads a text that holds one value and nothing else but space around it. -/
def read (dialect : Dialect) (text : List Char) : Except (Refusal Position) Json :=
  if text.head? = some '\ufeff' then .error (.malformed .byteOrderMark (.after []))
  else
    match readValue dialect (2 * text.length + 2) nestingLimit (skipSpace text) with
    | .error refusal => .error (refusal.locate text)
    | .ok (value, rest) =>
      match skipSpace rest with
      | [] => .ok value
      | rest => .error ((Refusal.malformed .extraData rest).locate text)

def Fault.message : Fault → String
  | .expectingValue => "Expecting value"
  | .expectingName => "Expecting property name enclosed in double quotes"
  | .expectingColon => "Expecting ':' delimiter"
  | .expectingComma => "Expecting ',' delimiter"
  | .unterminatedString => "Unterminated string starting at"
  | .controlCharacter => "Invalid control character at"
  | .invalidEscape => "Invalid \\escape"
  | .invalidUnicodeEscape => "Invalid \\uXXXX escape"
  | .extraData => "Extra data"
  | .byteOrderMark => "Unexpected UTF-8 BOM (decode using utf-8-sig)"

def Container.name : Container → String
  | .array => "array"
  | .object => "object"

/-- The wording for an integer with too many digits. -/
def integerTooLongMessage (digits : Nat) : String :=
  "Exceeds the limit (" ++ toString integerDigitLimit ++
    " digits) for integer string conversion: value has " ++ toString digits ++
    " digits; use sys.set_int_max_str_digits() to increase the limit"

end SampleTypes.Json
