import ServiceWorker.Text.Hex

/-!
# The SHA-256 digest

## Main definitions

* `Sha256.padded`: a message with its length, in whole blocks
* `Sha256.compress`: a block worked into a state
* `Sha256.digest`, `Sha256.hex`: the digest of a message, and its text
-/

namespace ServiceWorker.Digest.Sha256

/-- Eight words of thirty-two bits. -/
structure State where
  a : UInt32
  b : UInt32
  c : UInt32
  d : UInt32
  e : UInt32
  f : UInt32
  g : UInt32
  h : UInt32
  deriving DecidableEq, Repr, Inhabited

/-- The state before the first block: the first bits behind the point of the square roots of the
first eight primes. -/
def initial : State :=
  ⟨0x6a09e667, 0xbb67ae85, 0x3c6ef372, 0xa54ff53a,
    0x510e527f, 0x9b05688c, 0x1f83d9ab, 0x5be0cd19⟩

/-- The first bits behind the point of the cube roots of the first sixty-four primes. -/
def constants : List UInt32 := [
  0x428a2f98, 0x71374491, 0xb5c0fbcf, 0xe9b5dba5, 0x3956c25b, 0x59f111f1, 0x923f82a4, 0xab1c5ed5,
  0xd807aa98, 0x12835b01, 0x243185be, 0x550c7dc3, 0x72be5d74, 0x80deb1fe, 0x9bdc06a7, 0xc19bf174,
  0xe49b69c1, 0xefbe4786, 0x0fc19dc6, 0x240ca1cc, 0x2de92c6f, 0x4a7484aa, 0x5cb0a9dc, 0x76f988da,
  0x983e5152, 0xa831c66d, 0xb00327c8, 0xbf597fc7, 0xc6e00bf3, 0xd5a79147, 0x06ca6351, 0x14292967,
  0x27b70a85, 0x2e1b2138, 0x4d2c6dfc, 0x53380d13, 0x650a7354, 0x766a0abb, 0x81c2c92e, 0x92722c85,
  0xa2bfe8a1, 0xa81a664b, 0xc24b8b70, 0xc76c51a3, 0xd192e819, 0xd6990624, 0xf40e3585, 0x106aa070,
  0x19a4c116, 0x1e376c08, 0x2748774c, 0x34b0bcb5, 0x391c0cb3, 0x4ed8aa4a, 0x5b9cca4f, 0x682e6ff3,
  0x748f82ee, 0x78a5636f, 0x84c87814, 0x8cc70208, 0x90befffa, 0xa4506ceb, 0xbef9a3f7, 0xc67178f2]

/-- A word turned right by a number of bits. -/
def rotate (x : UInt32) (n : UInt32) : UInt32 :=
  (x >>> n) ||| (x <<< (32 - n))

/-- The word after sixteen words of the schedule, given four of them. -/
def nextWord (back16 back15 back7 back2 : UInt32) : UInt32 :=
  let s0 := rotate back15 7 ^^^ rotate back15 18 ^^^ (back15 >>> 3)
  let s1 := rotate back2 17 ^^^ rotate back2 19 ^^^ (back2 >>> 10)
  back16 + s0 + back7 + s1

/-- So many more words of a schedule. -/
def extend : Nat → Array UInt32 → Array UInt32
  | 0, words => words
  | n + 1, words =>
    let back (n : Nat) : UInt32 := words.getD (words.size - n) 0
    extend n (words.push (nextWord (back 16) (back 15) (back 7) (back 2)))

/-- The words that a block is worked in by. -/
def schedule (block : List UInt32) : List UInt32 :=
  (extend 48 block.toArray).toList

/-- A word and its constant worked into a state. -/
def round (s : State) (word constant : UInt32) : State :=
  let s1 := rotate s.e 6 ^^^ rotate s.e 11 ^^^ rotate s.e 25
  let choice := (s.e &&& s.f) ^^^ ((~~~ s.e) &&& s.g)
  let t1 := s.h + s1 + choice + constant + word
  let s0 := rotate s.a 2 ^^^ rotate s.a 13 ^^^ rotate s.a 22
  let majority := (s.a &&& s.b) ^^^ (s.a &&& s.c) ^^^ (s.b &&& s.c)
  ⟨t1 + s0 + majority, s.a, s.b, s.c, s.d + t1, s.e, s.f, s.g⟩

/-- The words of two states added. -/
def State.add (s t : State) : State :=
  ⟨s.a + t.a, s.b + t.b, s.c + t.c, s.d + t.d, s.e + t.e, s.f + t.f, s.g + t.g, s.h + t.h⟩

/-- A block of sixteen words worked into a state. -/
def compress (s : State) (block : List UInt32) : State :=
  s.add (((schedule block).zip constants).foldl (fun t p => round t p.1 p.2) s)

/-- The bytes of a number, highest first, in so many bytes. -/
def bigEndian (width n : Nat) : Bytes :=
  ((List.range width).map fun i => UInt8.ofNat (n >>> (8 * i))).reverse

/-- A message with a closing bit, zeros and its length in bits, in whole blocks of 64 bytes. -/
def padded (message : Bytes) : Bytes :=
  -- Nine bytes more are needed: the closing bit with seven zeros, and the length.
  let zeros := (119 - message.length % 64) % 64
  message ++ 0x80 :: List.replicate zeros 0 ++ bigEndian 8 (8 * message.length)

/-- The words of four bytes each. -/
def wordsOf : Bytes → List UInt32
  | a :: b :: c :: d :: rest =>
    UInt32.ofNat (((a.toNat * 256 + b.toNat) * 256 + c.toNat) * 256 + d.toNat) :: wordsOf rest
  | _ => []

/-- So many blocks of sixteen words worked into a state. -/
def absorb : Nat → State → List UInt32 → State
  | 0, s, _ => s
  | n + 1, s, words => absorb n (compress s (words.take 16)) (words.drop 16)

/-- The digest of a message. -/
def digest (message : Bytes) : Bytes :=
  let words := wordsOf (padded message)
  let s := absorb (words.length / 16) initial words
  [s.a, s.b, s.c, s.d, s.e, s.f, s.g, s.h].flatMap fun w => bigEndian 4 w.toNat

/-- The digest of a message in hexadecimal. -/
def hex (message : Bytes) : List Char :=
  Text.Hex.encode (digest message)

end ServiceWorker.Digest.Sha256
