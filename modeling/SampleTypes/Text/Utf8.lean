import SampleTypes.Text.CodePoint
import SampleTypes.Text.Hexadecimal
/-!
# UTF-8

Texts in files are encoded as UTF-8. Encoding is strict: a lone surrogate is refused. Decoding is
strict: an overlong form, an encoded surrogate, a number beyond `U+10FFFF` or a sequence that is cut
short is refused, with the place of the bytes that make it wrong. How many bytes those are depends on how far the sequence was well-formed: a byte that
may follow neither a lead byte nor what came between is not counted.
-/

set_option autoImplicit false

namespace SampleTypes

namespace Utf8

/-- What is wrong with a byte sequence. -/
inductive Defect where
  | invalidStart
  | invalidContinuation
  | unexpectedEnd
deriving DecidableEq, Repr

def Defect.message : Defect → String
  | invalidStart => "invalid start byte"
  | invalidContinuation => "invalid continuation byte"
  | unexpectedEnd => "unexpected end of data"

/-- Bytes that are not UTF-8. -/
structure Fault where
  defect : Defect
  /-- The number of bytes before the wrong ones. -/
  offset : Nat
  bytes : List UInt8
deriving DecidableEq, Repr

/-- The wording of a fault: the byte by its value if there is one, otherwise the span of the bytes. -/
def Fault.message (fault : Fault) : String :=
  let place := match fault.bytes with
    | [byte] => "byte 0x" ++ String.ofList (hexadecimal 2 byte.toNat) ++ " in position "
        ++ toString fault.offset
    | bytes => "bytes in position " ++ toString fault.offset ++ "-"
        ++ toString (fault.offset + bytes.length - 1)
  "'utf-8' codec can't decode " ++ place ++ ": " ++ fault.defect.message

/-- The number of bytes that follow a lead byte, the bits that it holds, and the range of the byte right
after it, or `none` for a byte that starts no character. -/
def leadByte? (byte : Nat) : Option (Nat × Nat × Nat × Nat) :=
  if byte < 0x80 then some (0, byte, 0x80, 0xBF)
  -- The two greatest of these would start overlong forms of ASCII characters.
  else if byte < 0xC2 then none
  else if byte < 0xE0 then some (1, byte - 0xC0, 0x80, 0xBF)
  -- A lesser second byte makes the form overlong, here and after the lead byte `F0`.
  else if byte = 0xE0 then some (2, 0, 0xA0, 0xBF)
  -- A greater second byte encodes a surrogate.
  else if byte = 0xED then some (2, 0xD, 0x80, 0x9F)
  else if byte < 0xF0 then some (2, byte - 0xE0, 0x80, 0xBF)
  else if byte = 0xF0 then some (3, 0, 0x90, 0xBF)
  else if byte < 0xF4 then some (3, byte - 0xF0, 0x80, 0xBF)
  -- A greater second byte leads beyond the last code point.
  else if byte = 0xF4 then some (3, 4, 0x80, 0x8F)
  else none

/-- The state between two bytes. -/
structure State where
  /-- The characters so far, the last one first. -/
  decoded : List Char := []
  /-- The bytes of the character that is being read, the last one first. -/
  pending : List UInt8 := []
  /-- The bits of that character so far. -/
  bits : Nat := 0
  /-- The number of bytes that it still needs. -/
  needed : Nat := 0
  /-- The least value of its next byte. -/
  least : Nat := 0x80
  /-- The greatest value of its next byte. -/
  greatest : Nat := 0xBF
  /-- The number of bytes before that character. -/
  offset : Nat := 0

/-- The state with the character that is being read complete. -/
def State.complete (state : State) : State where
  decoded := Char.ofNat state.bits :: state.decoded
  offset := state.offset + state.pending.length

def State.read (state : State) (byte : UInt8) : Except Fault State :=
  if state.needed = 0 then
    match leadByte? byte.toNat with
    | none => .error ⟨.invalidStart, state.offset, [byte]⟩
    | some (needed, bits, least, greatest) =>
      let next := { state with pending := [byte], bits, needed, least, greatest }
      .ok (if needed = 0 then next.complete else next)
  else if state.least ≤ byte.toNat ∧ byte.toNat ≤ state.greatest then
    let next := { state with
      pending := byte :: state.pending
      bits := state.bits * 64 + (byte.toNat - 0x80)
      needed := state.needed - 1
      least := 0x80
      greatest := 0xBF }
    .ok (if next.needed = 0 then next.complete else next)
  else .error ⟨.invalidContinuation, state.offset, state.pending.reverse⟩

/-- The characters that bytes encode. -/
def decode (bytes : List UInt8) : Except Fault (List Char) := do
  let state ← bytes.foldlM State.read {}
  if state.needed = 0 then .ok state.decoded.reverse
  else .error ⟨.unexpectedEnd, state.offset, state.pending.reverse⟩

/-- The bytes that encode a text; a lone surrogate is encoded as the replacement character. -/
def encode (t : Text) : List UInt8 := (String.ofList (t.map CodePoint.toChar)).toUTF8.toList

/-- Lone surrogates next to each other, which have no encoding of their own. -/
structure SurrogateFault where
  /-- The number of code points before them. -/
  offset : Nat
  halves : List (Fin 2048)
deriving DecidableEq, Repr

/-- The wording of a fault: the surrogate if there is one, otherwise the span of them. -/
def SurrogateFault.message (fault : SurrogateFault) : String :=
  let place := match fault.halves with
    | [half] => "character '\\u" ++ String.ofList (hexadecimal 4 (CodePoint.surrogate half).value)
        ++ "' in position " ++ toString fault.offset
    | halves => "characters in position " ++ toString fault.offset ++ "-"
        ++ toString (fault.offset + halves.length - 1)
  "'utf-8' codec can't encode " ++ place ++ ": surrogates not allowed"

def leadingHalves : Text → List (Fin 2048)
  | .surrogate half :: t => half :: leadingHalves t
  | _ => []

/-- The first lone surrogates of a text, which starts at an offset. -/
def surrogateFault? (offset : Nat) : Text → Option SurrogateFault
  | [] => none
  | .scalar _ :: t => surrogateFault? (offset + 1) t
  | .surrogate half :: t => some ⟨offset, half :: leadingHalves t⟩

/-- The bytes that encode a text without lone surrogates. -/
def encodeStrictly (t : Text) : Except SurrogateFault (List UInt8) :=
  match surrogateFault? 0 t with
  | none => .ok (encode t)
  | some fault => .error fault

end Utf8

/-- The characters with every line end, be it `\r\n`, `\r` or `\n`, as a single line feed. -/
def unifyLineEnds (cs : List Char) : List Char :=
  -- From the end: a carriage return before a line feed is dropped, as the line feed stands for both.
  (cs.foldr (fun c (unified, beforeLineFeed) =>
    if c = '\r' then (if beforeLineFeed then unified else '\n' :: unified, false)
    else (c :: unified, c == '\n')) (([] : List Char), false)).1

end SampleTypes
