import ServiceWorker.Network.Wire.Head
import ServiceWorker.Text.Hex

/-!
# The body of an answer

The head says where the body ends: behind so many bytes, behind the last of its chunks, or at the
end of the connection.

## Main definitions

* `Wire.Extent`: where a body ends
* `Wire.Extent.of?`: what a head says about it
* `Wire.Extent.read`: the body in front of its end
-/

namespace ServiceWorker.Network.Wire

/-- Where a body ends. -/
inductive Extent where
  | bytes (count : Nat)
  | chunks
  | connection
  deriving DecidableEq, Repr, Inhabited

/-! ## What the head says -/

/-- The parts of a value between commas, without blanks at their ends. -/
def listItems (value : Bytes) : List Bytes :=
  match value with
  | [] => [[]]
  | b :: rest =>
    match listItems rest with
    | [] => [[b]]
    | item :: items => if b = 44 then [] :: item :: items else (b :: item) :: items

/-- The count that a value writes, once or several times alike. -/
def count? (items : List Bytes) : Option Nat :=
  match items.map trimmed with
  | [] => none
  | first :: more =>
    let digits := first.map fun b => Char.ofNat b.toNat
    let isCount := !digits.isEmpty && digits.all Decimal.isDigit && more.all fun item =>
      !item.isEmpty && item.all (fun b => Decimal.isDigit (Char.ofNat b.toNat)) &&
        Decimal.value (item.map fun b => Char.ofNat b.toNat) = Decimal.value digits
    if isCount && Decimal.value digits < UInt64.size then some (Decimal.value digits) else none

/-- Whether the last coding on the way is that of chunks. -/
def endsInChunks (h : Head) : Bool :=
  match ((h.values "transfer-encoding").flatMap listItems).getLast? with
  | some item => Http.asciiLower (asciiText (trimmed item)) = "chunked"
  | none => false

/-- What a head says about the end of the body, unless it contradicts itself. -/
def Extent.of? (method : String) (h : Head) : Option Extent :=
  -- Some answers have no body, whatever their headers say.
  if h.status = 101 || h.status = 204 || h.status = 304 || method = "HEAD" ||
      (method = "CONNECT" && 200 ≤ h.status && h.status < 300) then
    some (.bytes 0)
  else if h.has "transfer-encoding" then
    if !h.isCurrent then none else some (if endsInChunks h then .chunks else .connection)
  else if h.has "content-length" then
    (count? ((h.values "content-length").flatMap listItems)).map .bytes
  else some .connection

/-! ## Chunks -/

/-- The digits of the size of a chunk. -/
def sizeDigits (bytes : Bytes) : List Char :=
  (bytes.map fun b => Char.ofNat b.toNat).takeWhile fun c => (Text.Hex.value? c).isSome

/-- What stands behind the size of a chunk on its line. -/
def afterSize? (bytes : Bytes) : Option Bytes :=
  match bytes.dropWhile isSpaceByte with
  | 59 :: rest =>
    match rest.dropWhile fun b => b ≠ 13 && b ≠ 10 with
    | 13 :: 10 :: rest => some rest
    | _ => none
  | 13 :: 10 :: rest => some rest
  | _ => none

/-- The size of a chunk, and what follows its line. -/
def chunkSize? (bytes : Bytes) : Option (Nat × Bytes) :=
  let digits := sizeDigits bytes
  let size := digits.foldl (fun n c => 16 * n + (Text.Hex.value? c).getD 0) 0
  if digits.isEmpty || UInt64.size ≤ size then none
  else (afterSize? (bytes.drop digits.length)).map (size, ·)

/-- Whether lines up to an empty one stand here, at most `fuel` of them. -/
def hasTrailers : Nat → Bytes → Bool
  | 0, _ => false
  | fuel + 1, bytes =>
    match bytes with
    | 13 :: 10 :: _ => true
    | _ =>
      match bytes.dropWhile (· ≠ 13) with
      | 13 :: 10 :: rest => hasTrailers fuel rest
      | _ => false

/-- The bytes of chunks up to the empty one, at most `fuel` of them. -/
def chunks? : Nat → Bytes → Option Bytes
  | 0, _ => none
  | fuel + 1, bytes => do
    let (size, rest) ← chunkSize? bytes
    -- The empty chunk is the last; headers may follow it, which are not kept.
    if size = 0 then if hasTrailers (rest.length + 1) rest then some [] else none
    else if rest.length < size then none
    else
      match rest.drop size with
      | 13 :: 10 :: more => (chunks? fuel more).map (rest.take size ++ ·)
      | _ => none

/-- The body in front of its end, unless the connection ends before. -/
def Extent.read (bytes : Bytes) : Extent → Option Bytes
  | .bytes count => if bytes.length < count then none else some (bytes.take count)
  | .chunks => chunks? (bytes.length + 1) bytes
  | .connection => some bytes

end ServiceWorker.Network.Wire
