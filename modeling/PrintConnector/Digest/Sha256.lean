/-! SHA-256 and its hexadecimal form.

A message is padded to whole blocks of 64 bytes.  Each block is spread over 64
words, and each word stirs the eight words of the state once.
-/

namespace PrintConnector.Digest

def rotateRight (word count : UInt32) : UInt32 :=
  word >>> count ||| word <<< (32 - count)

/-- The first 32 bits of the fractions of the cube roots of the first 64
primes. -/
def roundConstants : List UInt32 := [
  0x428a2f98, 0x71374491, 0xb5c0fbcf, 0xe9b5dba5, 0x3956c25b, 0x59f111f1, 0x923f82a4, 0xab1c5ed5,
  0xd807aa98, 0x12835b01, 0x243185be, 0x550c7dc3, 0x72be5d74, 0x80deb1fe, 0x9bdc06a7, 0xc19bf174,
  0xe49b69c1, 0xefbe4786, 0x0fc19dc6, 0x240ca1cc, 0x2de92c6f, 0x4a7484aa, 0x5cb0a9dc, 0x76f988da,
  0x983e5152, 0xa831c66d, 0xb00327c8, 0xbf597fc7, 0xc6e00bf3, 0xd5a79147, 0x06ca6351, 0x14292967,
  0x27b70a85, 0x2e1b2138, 0x4d2c6dfc, 0x53380d13, 0x650a7354, 0x766a0abb, 0x81c2c92e, 0x92722c85,
  0xa2bfe8a1, 0xa81a664b, 0xc24b8b70, 0xc76c51a3, 0xd192e819, 0xd6990624, 0xf40e3585, 0x106aa070,
  0x19a4c116, 0x1e376c08, 0x2748774c, 0x34b0bcb5, 0x391c0cb3, 0x4ed8aa4a, 0x5b9cca4f, 0x682e6ff3,
  0x748f82ee, 0x78a5636f, 0x84c87814, 0x8cc70208, 0x90befffa, 0xa4506ceb, 0xbef9a3f7, 0xc67178f2]

/-- The eight words that a digest is made of. -/
structure State where
  a : UInt32
  b : UInt32
  c : UInt32
  d : UInt32
  e : UInt32
  f : UInt32
  g : UInt32
  h : UInt32
deriving DecidableEq, Repr

namespace State

/-- The first 32 bits of the fractions of the square roots of the first eight
primes. -/
def start : State :=
  ⟨0x6a09e667, 0xbb67ae85, 0x3c6ef372, 0xa54ff53a, 0x510e527f, 0x9b05688c, 0x1f83d9ab, 0x5be0cd19⟩

def words (state : State) : List UInt32 :=
  [state.a, state.b, state.c, state.d, state.e, state.f, state.g, state.h]

/-- One round, with the constant of the round and the word of the block added
up. -/
def stir (state : State) (word : UInt32) : State :=
  let choice := (state.e &&& state.f) ^^^ (~~~state.e &&& state.g)
  let majority := (state.a &&& state.b) ^^^ (state.a &&& state.c) ^^^ (state.b &&& state.c)
  let lower := rotateRight state.e 6 ^^^ rotateRight state.e 11 ^^^ rotateRight state.e 25
  let upper := rotateRight state.a 2 ^^^ rotateRight state.a 13 ^^^ rotateRight state.a 22
  let first := state.h + lower + choice + word
  ⟨first + (upper + majority), state.a, state.b, state.c, state.d + first, state.e, state.f,
    state.g⟩

def add (left right : State) : State :=
  ⟨left.a + right.a, left.b + right.b, left.c + right.c, left.d + right.d,
    left.e + right.e, left.f + right.f, left.g + right.g, left.h + right.h⟩

end State

/-- The words of bytes, four to a word, the highest first. -/
def wordsOfBytes : List UInt8 → List UInt32
  | first :: second :: third :: fourth :: rest =>
      (first.toUInt32 <<< 24 ||| second.toUInt32 <<< 16 ||| third.toUInt32 <<< 8 |||
        fourth.toUInt32) :: wordsOfBytes rest
  | _ => []

/-- Adds so many words to a schedule that is written newest first. -/
def extend : Nat → List UInt32 → List UInt32
  | 0, schedule => schedule
  | count + 1, schedule =>
      let recent := schedule.getD 1 0
      let early := schedule.getD 14 0
      let word :=
        (rotateRight recent 17 ^^^ rotateRight recent 19 ^^^ recent >>> 10) + schedule.getD 6 0 +
          (rotateRight early 7 ^^^ rotateRight early 18 ^^^ early >>> 3) + schedule.getD 15 0
      extend count (word :: schedule)

/-- The 64 words that the sixteen words of a block are spread over. -/
def spread (block : List UInt32) : List UInt32 :=
  (extend 48 block.reverse).reverse

def State.absorb (state : State) (block : List UInt8) : State :=
  let words := (spread (wordsOfBytes block)).zipWith (· + ·) roundConstants
  state.add (words.foldl State.stir state)

/-- The bytes of a number, the highest first. -/
def bytesOfNat : Nat → Nat → List UInt8
  | 0, _ => []
  | count + 1, value => bytesOfNat count (value / 256) ++ [UInt8.ofNat value]

/-- What follows a message of so many bytes: a one bit, as many zeros as fill
the last block, and the length in bits. -/
def padding (length : Nat) : List UInt8 :=
  let zeros := (119 - length % 64) % 64
  0x80 :: (List.replicate zeros 0 ++ bytesOfNat 8 (8 * length))

def State.absorbAll (state : State) (bytes : List UInt8) : State :=
  if bytes.isEmpty then state
  else (state.absorb (bytes.take 64)).absorbAll (bytes.drop 64)
termination_by bytes.length
decreasing_by
  simp_all [List.length_drop]
  have := List.length_pos_iff.mpr ‹¬bytes = []›
  omega

def State.bytes (state : State) : List UInt8 :=
  state.words.flatMap fun word => bytesOfNat 4 word.toNat

def sha256 (message : List UInt8) : List UInt8 :=
  (State.start.absorbAll (message ++ padding message.length)).bytes

/-- Bytes in hexadecimal with lower-case letters. -/
def hex (bytes : List UInt8) : String :=
  .ofList (bytes.flatMap fun byte => [Nat.digitChar (byte.toNat / 16), Nat.digitChar (byte.toNat % 16)])

/-- The SHA-256 of a message in hexadecimal. -/
def fingerprint (message : List UInt8) : String :=
  hex (sha256 message)

end PrintConnector.Digest
