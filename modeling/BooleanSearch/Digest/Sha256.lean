import BooleanSearch.Text.Quoted
import BooleanSearch.Text.Utf8

/-!
# SHA-256

The digest that names a content in cache keys: padding to blocks of 64 bytes, the message schedule
of a block, and sixty-four rounds on eight words.
-/

namespace BooleanSearch.Sha256

/-- Round constants: the fractional parts of the cube roots of the first sixty-four primes. -/
def roundConstants : Array UInt32 :=
  #[0x428a2f98, 0x71374491, 0xb5c0fbcf, 0xe9b5dba5, 0x3956c25b, 0x59f111f1, 0x923f82a4, 0xab1c5ed5,
    0xd807aa98, 0x12835b01, 0x243185be, 0x550c7dc3, 0x72be5d74, 0x80deb1fe, 0x9bdc06a7, 0xc19bf174,
    0xe49b69c1, 0xefbe4786, 0x0fc19dc6, 0x240ca1cc, 0x2de92c6f, 0x4a7484aa, 0x5cb0a9dc, 0x76f988da,
    0x983e5152, 0xa831c66d, 0xb00327c8, 0xbf597fc7, 0xc6e00bf3, 0xd5a79147, 0x06ca6351, 0x14292967,
    0x27b70a85, 0x2e1b2138, 0x4d2c6dfc, 0x53380d13, 0x650a7354, 0x766a0abb, 0x81c2c92e, 0x92722c85,
    0xa2bfe8a1, 0xa81a664b, 0xc24b8b70, 0xc76c51a3, 0xd192e819, 0xd6990624, 0xf40e3585, 0x106aa070,
    0x19a4c116, 0x1e376c08, 0x2748774c, 0x34b0bcb5, 0x391c0cb3, 0x4ed8aa4a, 0x5b9cca4f, 0x682e6ff3,
    0x748f82ee, 0x78a5636f, 0x84c87814, 0x8cc70208, 0x90befffa, 0xa4506ceb, 0xbef9a3f7, 0xc67178f2]

/-- The eight words of the running state. -/
structure State where
  a : UInt32
  b : UInt32
  c : UInt32
  d : UInt32
  e : UInt32
  f : UInt32
  g : UInt32
  h : UInt32

/-- The state before the first block. -/
def State.start : State :=
  ⟨0x6a09e667, 0xbb67ae85, 0x3c6ef372, 0xa54ff53a, 0x510e527f, 0x9b05688c, 0x1f83d9ab, 0x5be0cd19⟩

/-- Rotation to the right within 32 bits. -/
def rotate (word : UInt32) (amount : UInt32) : UInt32 :=
  (word >>> amount) ||| (word <<< (32 - amount))

/-- A message with a one bit, zeros and its length in bits, filling whole blocks. -/
def pad (message : Bytes) : Bytes :=
  let zeros := (119 - message.size % 64) % 64
  let length := message.size * 8
  let lengthBytes := (List.range 8).reverse.map fun place =>
    UInt8.ofNat (length / Nat.pow 256 place % 256)
  (message.push 0x80 ++ Array.replicate zeros 0) ++ lengthBytes.toArray

/-- The word whose four bytes start at an index, most significant byte first. -/
def wordAt (bytes : Bytes) (index : Nat) : UInt32 :=
  let byte (offset : Nat) : UInt32 := (bytes.getD (index + offset) 0).toUInt32
  (byte 0 <<< 24) ||| (byte 1 <<< 16) ||| (byte 2 <<< 8) ||| byte 3

/-- The sixty-four words that a block feeds to the rounds. -/
def schedule (bytes : Bytes) (block : Nat) : Array UInt32 :=
  let first := (Array.range 16).map fun index => wordAt bytes (64 * block + 4 * index)
  (List.range 48).foldl
    (fun words offset =>
      let index := offset + 16
      let early := words.getD (index - 15) 0
      let late := words.getD (index - 2) 0
      let small := rotate early 7 ^^^ rotate early 18 ^^^ (early >>> 3)
      let large := rotate late 17 ^^^ rotate late 19 ^^^ (late >>> 10)
      words.push (words.getD (index - 16) 0 + small + words.getD (index - 7) 0 + large))
    first

/-- One round with its message word and constant. -/
def State.round (state : State) (word constant : UInt32) : State :=
  let sigma := rotate state.e 6 ^^^ rotate state.e 11 ^^^ rotate state.e 25
  let choice := (state.e &&& state.f) ^^^ ((~~~state.e) &&& state.g)
  let first := state.h + sigma + choice + constant + word
  let turned := rotate state.a 2 ^^^ rotate state.a 13 ^^^ rotate state.a 22
  let majority := (state.a &&& state.b) ^^^ (state.a &&& state.c) ^^^ (state.b &&& state.c)
  let second := turned + majority
  ⟨first + second, state.a, state.b, state.c, state.d + first, state.e, state.f, state.g⟩

/-- The state after one block. -/
def State.absorb (state : State) (bytes : Bytes) (block : Nat) : State :=
  let words := schedule bytes block
  let last := (List.range 64).foldl
    (fun running index => running.round (words.getD index 0) (roundConstants.getD index 0)) state
  ⟨state.a + last.a, state.b + last.b, state.c + last.c, state.d + last.d, state.e + last.e,
    state.f + last.f, state.g + last.g, state.h + last.h⟩

/-- The digest of a message as sixty-four hexadecimal digits. -/
def hexDigest (message : Bytes) : String :=
  let bytes := pad message
  let final := (List.range (bytes.size / 64)).foldl (fun state block => state.absorb bytes block)
    State.start
  let words := [final.a, final.b, final.c, final.d, final.e, final.f, final.g, final.h]
  String.ofList (words.flatMap fun word => Text.hexDigits 8 word.toNat)

end BooleanSearch.Sha256
