/-!
# The SHA-256 digest

The digest of a sequence of bytes, as the Secure Hash Standard defines it.

* The bytes are padded to whole blocks of sixty-four (`padded`);
* each block turns the eight words of the state into eight new ones (`absorb`), in sixty-four rounds
  over a sliding window of sixteen message words;
* the digest is the last state, most significant byte first.
-/

namespace Expansion.Digest

/-- The constants of the sixty-four rounds: the first bits of the cube roots of the primes. -/
def roundConstants : List UInt32 :=
  [ 0x428a2f98, 0x71374491, 0xb5c0fbcf, 0xe9b5dba5, 0x3956c25b, 0x59f111f1, 0x923f82a4, 0xab1c5ed5,
    0xd807aa98, 0x12835b01, 0x243185be, 0x550c7dc3, 0x72be5d74, 0x80deb1fe, 0x9bdc06a7, 0xc19bf174,
    0xe49b69c1, 0xefbe4786, 0x0fc19dc6, 0x240ca1cc, 0x2de92c6f, 0x4a7484aa, 0x5cb0a9dc, 0x76f988da,
    0x983e5152, 0xa831c66d, 0xb00327c8, 0xbf597fc7, 0xc6e00bf3, 0xd5a79147, 0x06ca6351, 0x14292967,
    0x27b70a85, 0x2e1b2138, 0x4d2c6dfc, 0x53380d13, 0x650a7354, 0x766a0abb, 0x81c2c92e, 0x92722c85,
    0xa2bfe8a1, 0xa81a664b, 0xc24b8b70, 0xc76c51a3, 0xd192e819, 0xd6990624, 0xf40e3585, 0x106aa070,
    0x19a4c116, 0x1e376c08, 0x2748774c, 0x34b0bcb5, 0x391c0cb3, 0x4ed8aa4a, 0x5b9cca4f, 0x682e6ff3,
    0x748f82ee, 0x78a5636f, 0x84c87814, 0x8cc70208, 0x90befffa, 0xa4506ceb, 0xbef9a3f7, 0xc67178f2 ]

/-- The eight words that blocks are absorbed into. -/
structure HashState where
  a : UInt32
  b : UInt32
  c : UInt32
  d : UInt32
  e : UInt32
  f : UInt32
  g : UInt32
  h : UInt32

/-- The state before the first block: the first bits of the square roots of the primes. -/
def HashState.start : HashState :=
  ⟨0x6a09e667, 0xbb67ae85, 0x3c6ef372, 0xa54ff53a,
    0x510e527f, 0x9b05688c, 0x1f83d9ab, 0x5be0cd19⟩

/-- The bits of a word turned to the right. -/
def rotateRight (w : UInt32) (count : UInt32) : UInt32 := (w >>> count) ||| (w <<< (32 - count))

/-- The message word that follows a window of sixteen. -/
def nextWord (window : List UInt32) : UInt32 :=
  let w (i : Nat) := window.getD i 0
  -- Words 14, 9, 1 and 0 of the window are 2, 7, 15 and 16 places before the new one.
  let near := rotateRight (w 14) 17 ^^^ rotateRight (w 14) 19 ^^^ (w 14 >>> 10)
  let far := rotateRight (w 1) 7 ^^^ rotateRight (w 1) 18 ^^^ (w 1 >>> 3)
  near + w 9 + far + w 0

/-- One round: the state takes in the first word of the window and a constant. -/
def round (s : HashState) (word constant : UInt32) : HashState :=
  let mixE := rotateRight s.e 6 ^^^ rotateRight s.e 11 ^^^ rotateRight s.e 25
  let choice := (s.e &&& s.f) ^^^ (~~~s.e &&& s.g)
  let first := s.h + mixE + choice + constant + word
  let mixA := rotateRight s.a 2 ^^^ rotateRight s.a 13 ^^^ rotateRight s.a 22
  let majority := (s.a &&& s.b) ^^^ (s.a &&& s.c) ^^^ (s.b &&& s.c)
  ⟨first + mixA + majority, s.a, s.b, s.c, s.d + first, s.e, s.f, s.g⟩

/-- The rounds for the constants that are left. -/
def rounds : List UInt32 → List UInt32 → HashState → HashState
  | [], _, s => s
  | constant :: rest, window, s =>
    rounds rest (window.drop 1 ++ [nextWord window]) (round s (window.headD 0) constant)

/-- The word of four bytes, most significant first. -/
def wordOfBytes (bytes : List UInt8) : UInt32 :=
  bytes.foldl (fun w b => (w <<< 8) ||| b.toUInt32) 0

/-- The words of a block. -/
def wordsOfBlock : Nat → List UInt8 → List UInt32
  | 0, _ => []
  | count + 1, bytes => wordOfBytes (bytes.take 4) :: wordsOfBlock count (bytes.drop 4)

/-- The state after one block. -/
def absorb (s : HashState) (block : List UInt8) : HashState :=
  let t := rounds roundConstants (wordsOfBlock 16 block) s
  ⟨s.a + t.a, s.b + t.b, s.c + t.c, s.d + t.d, s.e + t.e, s.f + t.f, s.g + t.g, s.h + t.h⟩

/-- The state after a number of blocks. -/
def absorbBlocks : Nat → List UInt8 → HashState → HashState
  | 0, _, s => s
  | count + 1, bytes, s => absorbBlocks count (bytes.drop 64) (absorb s (bytes.take 64))

/-- A number in so many bytes, most significant first. -/
def bytesOfNat : Nat → Nat → List UInt8
  | 0, _ => []
  | count + 1, n => bytesOfNat count (n / 256) ++ [UInt8.ofNat n]

/-- The bytes with a mark, zeros up to a whole number of blocks, and the length in bits. -/
def padded (bytes : List UInt8) : List UInt8 :=
  bytes ++ [0x80] ++ List.replicate ((119 - bytes.length % 64) % 64) 0
    ++ bytesOfNat 8 (bytes.length * 8)

/-- The SHA-256 digest of some bytes. -/
def sha256 (bytes : List UInt8) : List UInt8 :=
  let text := padded bytes
  let s := absorbBlocks (text.length / 64) text HashState.start
  [s.a, s.b, s.c, s.d, s.e, s.f, s.g, s.h].flatMap fun w => bytesOfNat 4 w.toNat

end Expansion.Digest
