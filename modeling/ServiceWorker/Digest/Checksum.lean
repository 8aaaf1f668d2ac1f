import ServiceWorker.Text.Symbol

/-!
# Checksums

## Main definitions

* `Checksum.crc32`: the remainder of a message as a polynomial over two elements
* `Checksum.adler32`: the sums of its bytes and of these sums
-/

namespace ServiceWorker.Digest.Checksum

/-- A bit divided out of a remainder, the lowest bit standing for the highest power. -/
def crcBit (r : UInt32) : UInt32 :=
  if r &&& 1 = 1 then (r >>> 1) ^^^ 0xEDB88320 else r >>> 1

/-- A byte worked into a remainder. -/
def crcByte (r : UInt32) (b : UInt8) : UInt32 :=
  Nat.repeat crcBit 8 (r ^^^ b.toUInt32)

/-- The remainder of a message as a polynomial over two elements, begun and ended with all bits
turned over. -/
def crc32 (bytes : Bytes) : Nat :=
  ((bytes.foldl crcByte 0xFFFFFFFF) ^^^ 0xFFFFFFFF).toNat

/-- The sum of the bytes, begun with one, and in front of it the sum of these sums, both modulo the
largest prime below 65536. -/
def adler32 (bytes : Bytes) : Nat :=
  let (a, b) := bytes.foldl
    (fun (a, b) byte =>
      let a := (a + byte.toNat) % 65521
      (a, (b + a) % 65521))
    (1, 0)
  65536 * b + a

end ServiceWorker.Digest.Checksum
