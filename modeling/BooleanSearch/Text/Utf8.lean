import BooleanSearch.Text.Basic

/-!
# Reading and writing UTF-8

The decoder takes one byte at a time and keeps what a partly read character needs, so decoding a
file piece by piece is the same as decoding it whole.  Ill-formed bytes are replaced: every
longest beginning of a character that cannot be continued becomes one replacement character.
-/

namespace BooleanSearch.Utf8

/-- The state between two bytes: at a character boundary, or inside a character whose leading bytes
gave `bits`, which needs `missing` more bytes, the next of them between `low` and `high`, or after
the first two bytes of a surrogate, which is ill-formed but is judged only when more is known. -/
inductive Decoder
  | boundary
  | inside (missing bits low high : Nat)
  | surrogate
  deriving Repr, DecidableEq

/-- The character that stands for ill-formed bytes. -/
def replacement : Char :=
  Char.ofNat 0xFFFD

/-- What a byte at a character boundary does. -/
def lead (byte : Nat) : Decoder × List Char :=
  if byte < 0x80 then (.boundary, [Char.ofNat byte])
  else if byte < 0xC2 then (.boundary, [replacement])
  else if byte < 0xE0 then (.inside 1 (byte - 0xC0) 0x80 0xBF, [])
  else if byte == 0xE0 then (.inside 2 0 0xA0 0xBF, [])
  else if byte == 0xED then (.inside 2 13 0x80 0x9F, [])
  else if byte < 0xF0 then (.inside 2 (byte - 0xE0) 0x80 0xBF, [])
  else if byte == 0xF0 then (.inside 3 0 0x90 0xBF, [])
  else if byte < 0xF4 then (.inside 3 (byte - 0xF0) 0x80 0xBF, [])
  else if byte == 0xF4 then (.inside 3 4 0x80 0x8F, [])
  else (.boundary, [replacement])

/-- One byte: the next state and the characters that are now complete. -/
def Decoder.step : Decoder → UInt8 → Decoder × List Char
  | .boundary, byte => lead byte.toNat
  | .inside missing bits low high, byte =>
    let value := byte.toNat
    if low ≤ value && value ≤ high then
      let bits := bits * 64 + (value - 0x80)
      if missing ≤ 1 then (.boundary, [Char.ofNat bits])
      else (.inside (missing - 1) bits 0x80 0xBF, [])
    else if high == 0x9F && 0xA0 ≤ value && value ≤ 0xBF then (.surrogate, [])
    else
      let (next, chars) := lead value
      (next, replacement :: chars)
  | .surrogate, byte =>
    let (next, chars) := lead byte.toNat
    (next, replacement :: replacement :: chars)

/-- Feeds bytes to the decoder and gathers the completed characters. -/
def Decoder.feed (decoder : Decoder) (bytes : Bytes) : Decoder × Text :=
  bytes.foldl
    (fun (state : Decoder × Text) byte =>
      let (next, chars) := state.1.step byte
      (next, chars.foldl Array.push state.2))
    (decoder, #[])

/-- What the end of the bytes adds: an unfinished character is replaced. -/
def Decoder.finish : Decoder → Text
  | .boundary => #[]
  | .inside _ _ _ _ => #[replacement]
  | .surrogate => #[replacement, replacement]

def decode (bytes : Bytes) : Text :=
  let (decoder, text) := Decoder.boundary.feed bytes
  text ++ decoder.finish

def encodeChar (char : Char) : List UInt8 :=
  let code := char.toNat
  if code < 0x80 then [UInt8.ofNat code]
  else if code < 0x800 then [UInt8.ofNat (0xC0 + code / 64), UInt8.ofNat (0x80 + code % 64)]
  else if code < 0x10000 then
    [UInt8.ofNat (0xE0 + code / 4096), UInt8.ofNat (0x80 + code / 64 % 64),
      UInt8.ofNat (0x80 + code % 64)]
  else
    [UInt8.ofNat (0xF0 + code / 262144), UInt8.ofNat (0x80 + code / 4096 % 64),
      UInt8.ofNat (0x80 + code / 64 % 64), UInt8.ofNat (0x80 + code % 64)]

/-- The bytes of a text. -/
def encode (text : Text) : Bytes :=
  text.foldl (fun bytes char => (encodeChar char).foldl Array.push bytes) #[]

def encodeString (text : String) : Bytes :=
  encode (Text.ofString text)

/-- Whether a byte may come next in well-formed UTF-8. -/
def Decoder.accepts : Decoder → UInt8 → Bool
  | .boundary, byte => byte.toNat < 0x80 || (0xC2 ≤ byte.toNat && byte.toNat < 0xF5)
  | .inside _ _ low high, byte => low ≤ byte.toNat && byte.toNat ≤ high
  | .surrogate, _ => false

/-- Why bytes are not well formed. -/
inductive FaultKind
  | invalidStart
  | invalidContinuation
  | unexpectedEnd
  deriving Repr, DecidableEq

/-- The first ill-formed stretch of bytes, from `start` up to but without `stop`; `byte` is the
first of them. -/
structure Fault where
  start : Nat
  stop : Nat
  byte : UInt8
  kind : FaultKind
  deriving Repr, DecidableEq

/-- Looks for the first fault.  `start` and `first` tell where the present character began. -/
def firstFaultFrom? (decoder : Decoder) (start : Nat) (first : UInt8) (index : Nat) :
    List UInt8 → Option Fault
  | [] =>
    match decoder with
    | .boundary => none
    | _ => some ⟨start, index, first, .unexpectedEnd⟩
  | byte :: rest =>
    match decoder with
    | .boundary =>
      if decoder.accepts byte then firstFaultFrom? (decoder.step byte).1 index byte (index + 1) rest
      else some ⟨index, index + 1, byte, .invalidStart⟩
    | _ =>
      if decoder.accepts byte then firstFaultFrom? (decoder.step byte).1 start first (index + 1) rest
      else some ⟨start, index, first, .invalidContinuation⟩

/-- The first fault of some bytes, if they are not well-formed UTF-8. -/
def firstFault? (bytes : Bytes) : Option Fault :=
  firstFaultFrom? .boundary 0 0 0 bytes.toList

end BooleanSearch.Utf8
