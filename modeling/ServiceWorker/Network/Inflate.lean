import ServiceWorker.Digest.Checksum

/-!
# Compressed bodies

A compressed text is a row of blocks. Each holds bytes as they are, or symbols in codes of different
lengths: bytes, and copies of what stands a distance before.

## Main definitions

* `Inflate.Code`: the code that the lengths of its words give
* `Inflate.blocks`: the bytes of all blocks
* `Inflate.gzip?`, `Inflate.zlib?`: the bytes in a compressed file and in a compressed stream, if
  they agree with their checksum
-/

namespace ServiceWorker.Network.Inflate

/-! ## Bits -/

/-- The bits of bytes, the lowest of each byte first. -/
def bitsOf (bytes : Bytes) : List Bool :=
  bytes.flatMap fun b => (List.range 8).map b.toNat.testBit

/-- A number of so many bits, the lowest first. -/
def number : Nat → List Bool → Option (Nat × List Bool)
  | 0, bits => some (0, bits)
  | _ + 1, [] => none
  | n + 1, b :: bits => (number n bits).map fun (k, rest) => (2 * k + b.toNat, rest)

/-! ## Codes -/

/-- A code: for each length from one the number of words that have it, and the symbols in the order
of their words. -/
structure Code where
  counts : List Nat
  symbols : Array Nat
  deriving Repr, Inhabited

namespace Code

/-- How many more words of the greatest length there could be, unless there are too many words. -/
def room (counts : List Nat) : Option Nat :=
  counts.foldlM (fun left n => if n ≤ 2 * left then some (2 * left - n) else none) 1

/-- The code in which each symbol has a word of a length, none if that is zero. -/
def ofLengths (lengths : List Nat) : Code where
  counts := (List.range 15).map fun i => lengths.count (i + 1)
  symbols := ((List.range 15).flatMap fun i =>
    (lengths.zipIdx.filter (·.1 = i + 1)).map (·.2)).toArray

/-- Whether a code has as many words as it can have. A code of no words need not, nor a code of a
single word of length one where `sparse` says so. -/
def isComplete (sparse : Bool) (lengths : List Nat) : Bool :=
  match room (ofLengths lengths).counts with
  | none => false
  | some 0 => true
  | some _ => lengths.all (· = 0) || (sparse && lengths.all (· ≤ 1))

/-- The symbol whose word the bits begin with: words of one length follow each other, and behind the
last one, doubled, those of the next length. -/
def read (symbols : Array Nat) (word first index : Nat) :
    List Nat → List Bool → Option (Nat × List Bool)
  | count :: counts, b :: bits =>
    let word := word + b.toNat
    if word < first + count then (symbols[index + (word - first)]?).map (·, bits)
    else read symbols (2 * word) (2 * (first + count)) (index + count) counts bits
  | _, _ => none

/-- The first symbol in a row of bits. -/
def symbol (c : Code) (bits : List Bool) : Option (Nat × List Bool) :=
  read c.symbols 0 0 0 c.counts bits

end Code

/-! ## Blocks -/

/-- The length of a copy, from its symbol and the bits behind it. -/
def copyLength (n : Nat) (bits : List Bool) : Option (Nat × List Bool) :=
  if n < 8 then some (n + 3, bits)
  else if n < 28 then
    let extra := n / 4 - 1
    (number extra bits).map fun (k, rest) => ((4 + n % 4) <<< extra + 3 + k, rest)
  else if n = 28 then some (258, bits)
  else none

/-- The distance of a copy, from its symbol and the bits behind it. -/
def copyDistance (n : Nat) (bits : List Bool) : Option (Nat × List Bool) :=
  if n < 4 then some (n + 1, bits)
  else if n < 30 then
    let extra := n / 2 - 1
    (number extra bits).map fun (k, rest) => ((2 + n % 2) <<< extra + 1 + k, rest)
  else none

/-- Bytes with so many more, each the one that stands a distance before. -/
def copy (distance : Nat) : Nat → Array UInt8 → Array UInt8
  | 0, out => out
  | n + 1, out => copy distance n (out.push (out[out.size - distance]?.getD 0))

/-- The symbols of a block, at most `fuel` of them, behind bytes. -/
def symbols (literals distances : Code) :
    Nat → Array UInt8 → List Bool → Option (Array UInt8 × List Bool)
  | 0, _, _ => none
  | fuel + 1, out, bits => do
    let (n, bits) ← literals.symbol bits
    if n < 256 then symbols literals distances fuel (out.push (UInt8.ofNat n)) bits
    else if n = 256 then some (out, bits)
    else
      let (length, bits) ← copyLength (n - 257) bits
      let (m, bits) ← distances.symbol bits
      let (distance, bits) ← copyDistance m bits
      -- A copy begins within what has been written.
      if out.size < distance then none
      else symbols literals distances fuel (copy distance length out) bits

/-- The codes of a block that names none. -/
def fixedCodes : Code × Code :=
  (.ofLengths (List.replicate 144 8 ++ List.replicate 112 9 ++ List.replicate 24 7 ++
    List.replicate 8 8), .ofLengths (List.replicate 32 5))

/-- The order in which the lengths of the words for lengths are written. -/
def lengthOrder : List Nat :=
  [16, 17, 18, 0, 8, 7, 9, 6, 10, 5, 11, 4, 12, 3, 13, 2, 14, 1, 15]

/-- So many numbers of three bits. -/
def triples : Nat → List Bool → Option (List Nat × List Bool)
  | 0, bits => some ([], bits)
  | n + 1, bits => do
    let (k, bits) ← number 3 bits
    let (rest, bits) ← triples n bits
    some (k :: rest, bits)

/-- Lengths written with a code, last one first: a length, the last one again, or zeros. -/
def lengths (code : Code) (total : Nat) :
    Nat → List Nat → List Bool → Option (List Nat × List Bool)
  | 0, _, _ => none
  | fuel + 1, out, bits =>
    if out.length = total then some (out, bits)
    else if total < out.length then none
    else do
      let (n, bits) ← code.symbol bits
      if n < 16 then lengths code total fuel (n :: out) bits
      else if n = 16 then
        let last ← out.head?
        let (k, bits) ← number 2 bits
        lengths code total fuel (List.replicate (k + 3) last ++ out) bits
      else if n = 17 then
        let (k, bits) ← number 3 bits
        lengths code total fuel (List.replicate (k + 3) 0 ++ out) bits
      else
        let (k, bits) ← number 7 bits
        lengths code total fuel (List.replicate (k + 11) 0 ++ out) bits

/-- The codes that a block names. -/
def namedCodes (bits : List Bool) : Option ((Code × Code) × List Bool) := do
  let (literalCount, bits) ← number 5 bits
  let (distanceCount, bits) ← number 5 bits
  let (lengthCount, bits) ← number 4 bits
  let literalCount := literalCount + 257
  let distanceCount := distanceCount + 1
  if literalCount > 286 || distanceCount > 30 then none
  else
    let (written, bits) ← triples (lengthCount + 4) bits
    let placed := lengthOrder.zip written
    let lengthLengths := (List.range 19).map fun n => (placed.lookup n).getD 0
    if !Code.isComplete false lengthLengths then none
    else
      let total := literalCount + distanceCount
      let (all, bits) ← lengths (.ofLengths lengthLengths) total (total + 1) [] bits
      -- The lengths of both codes are written in one row, so that copies may run across.
      let literals := all.reverse.take literalCount
      let distances := all.reverse.drop literalCount
      -- Without a word for its end the block could not end.
      if literals[256]? = some 0 then none
      else if Code.isComplete true literals && Code.isComplete true distances then
        some ((.ofLengths literals, .ofLengths distances), bits)
      else none

/-- The bits from the next byte on. -/
def aligned (bits : List Bool) : List Bool :=
  bits.drop (bits.length % 8)

/-- So many bytes. -/
def rawBytes : Nat → Array UInt8 → List Bool → Option (Array UInt8 × List Bool)
  | 0, out, bits => some (out, bits)
  | n + 1, out, bits => do
    let (b, bits) ← number 8 bits
    rawBytes n (out.push (UInt8.ofNat b)) bits

/-- A block of bytes as they are. In front stands their number, and once more with all bits turned
over. -/
def rawBlock (out : Array UInt8) (bits : List Bool) : Option (Array UInt8 × List Bool) := do
  let (count, bits) ← number 16 (aligned bits)
  let (check, bits) ← number 16 bits
  if count + check = 65535 then rawBytes count out bits else none

/-- The bytes of all blocks, at most `fuel` of them. -/
def blocks : Nat → Array UInt8 → List Bool → Option (Array UInt8 × List Bool)
  | 0, _, _ => none
  | fuel + 1, out, bits => do
    let (isLast, bits) ← number 1 bits
    let (kind, bits) ← number 2 bits
    let (out, bits) ←
      match kind with
      | 0 => rawBlock out bits
      | 1 => symbols fixedCodes.1 fixedCodes.2 bits.length out bits
      | 2 => do
        let ((literals, distances), bits) ← namedCodes bits
        symbols literals distances bits.length out bits
      | _ => none
    if isLast = 1 then some (out, bits) else blocks fuel out bits

/-- The bytes of all blocks, and the bytes behind them. -/
def inflate (bytes : Bytes) : Option (Bytes × Bytes) := do
  let bits := bitsOf bytes
  let (out, rest) ← blocks bits.length #[] bits
  some (out.toList, bytes.drop (bytes.length - rest.length / 8))

/-! ## Files and streams -/

/-- The number that bytes write, the lowest byte first. -/
def lowFirst (bytes : Bytes) : Nat :=
  bytes.foldr (fun b n => b.toNat + 256 * n) 0

/-- What stands behind a part that ends in a zero. -/
def afterZero? (bytes : Bytes) : Option Bytes :=
  match bytes.dropWhile (· ≠ 0) with
  | [] => none
  | _ :: rest => some rest

/-- The compressed text of a file, behind what the file says about it. -/
def gzipBody? (bytes : Bytes) : Option Bytes := do
  match bytes with
  | 0x1F :: 0x8B :: 8 :: flags :: _ :: _ :: _ :: _ :: _ :: _ :: rest =>
    let has (i : Nat) : Bool := flags.toNat.testBit i
    let rest ←
      if has 2 then
        match rest with
        | a :: b :: rest =>
          let n := lowFirst [a, b]
          if rest.length < n then none else some (rest.drop n)
        | _ => none
      else some rest
    let rest ← if has 3 then afterZero? rest else some rest
    let rest ← if has 4 then afterZero? rest else some rest
    if has 1 then if rest.length < 2 then none else some (rest.drop 2) else some rest
  | _ => none

/-- The bytes in a compressed file. -/
def gzip? (bytes : Bytes) : Option Bytes := do
  let (out, rest) ← inflate (← gzipBody? bytes)
  let isWhole := 8 ≤ rest.length && lowFirst (rest.take 4) = Digest.Checksum.crc32 out &&
    lowFirst ((rest.drop 4).take 4) = out.length % UInt32.size
  if isWhole then some out else none

/-- The bytes in a compressed stream. -/
def zlib? (bytes : Bytes) : Option Bytes := do
  match bytes with
  | a :: b :: rest =>
    let isHead := (256 * a.toNat + b.toNat) % 31 = 0 && a.toNat % 16 = 8 && a.toNat / 16 ≤ 7 &&
      !b.toNat.testBit 5
    if !isHead then none
    else
      let (out, rest) ← inflate rest
      let isWhole := 4 ≤ rest.length &&
        lowFirst (rest.take 4).reverse = Digest.Checksum.adler32 out
      if isWhole then some out else none
  | _ => none

end ServiceWorker.Network.Inflate
