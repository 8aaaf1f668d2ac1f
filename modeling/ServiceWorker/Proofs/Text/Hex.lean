import ServiceWorker.Text.Hex

/-!
# Hexadecimal text is read back

## Main results

* `Text.Hex.value?_digit`: a digit is read back as its value
* `Text.Hex.decode?_encode`: bytes are read back from their digits
-/

namespace ServiceWorker.Text.Hex

/-- A digit is read back as its value. -/
theorem value?_digit : ∀ n, n < 16 → value? (digit n) = some n := by
  decide

/-- A digit is one byte long. -/
theorem utf8Size_of_value? {c : Char} {n : Nat} (h : value? c = some n) : c.utf8Size = 1 := by
  have hsmall : c.val.toNat ≤ 127 := by
    show c.toNat ≤ 127
    unfold value? at h
    grind
  exact if_pos (UInt32.le_iff_toNat_le.mpr hsmall)

/-- **Bytes are read back from their digits.** -/
theorem decode?_encode (bytes : Bytes) : decode? (encode bytes) = some bytes := by
  induction bytes with
  | nil => rfl
  | cons b bytes ih =>
    have hlt : b.toNat < 256 := b.toNat_lt
    have hhigh := value?_digit (b.toNat / 16) (by omega)
    have hlow := value?_digit (b.toNat % 16) (by omega)
    have hhalves : UInt8.ofNat (16 * (b.toNat / 16) + b.toNat % 16) = b := by
      rw [Nat.div_add_mod, UInt8.ofNat_toNat]
    show decode? (digit (b.toNat / 16) :: digit (b.toNat % 16) :: encode bytes) = _
    rw [decode?, hhigh, hlow, ih]
    exact congrArg (fun c => some (c :: bytes)) hhalves

example : encode [0, 255, 16] = ['0', '0', 'f', 'f', '1', '0'] ∧
    decode? ['0', '0', 'f', 'f', '1', '0'] = some [0, 255, 16] := by decide

end ServiceWorker.Text.Hex
