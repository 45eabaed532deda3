import Mathlib.Tactic.Common
import TxInspect.Address
import TxInspect.Proofs.Results

/-!
# Formats that can be written

A format is valid (`Format.IsValid`) when its human-readable part may be written and an address
under it is not too long.  These are the formats in which every address has a text
(`isValid_iff`).
-/

namespace TxInspect.Bech32

theorem length_symbolsOfBits (bits : List Bool) :
    (symbolsOfBits bits).length = (bits.length + 4) / 5 := by
  fun_induction symbolsOfBits bits with
  | case1 a b c d e rest ih =>
    simp only [List.length_cons, ih]
    omega
  | case2 => rfl
  | case3 => simp
  | case4 => simp
  | case5 => simp
  | case6 => simp

theorem length_flatMap_byteBits (bs : List UInt8) :
    (bs.flatMap byteBits).length = 8 * bs.length := by
  induction bs with
  | nil => rfl
  | cons b bs ih =>
    rw [List.flatMap_cons, List.length_append, ih, List.length_cons]
    simp only [byteBits, List.length_cons, List.length_nil]
    omega

theorem length_ofBytes (bs : List UInt8) : (ofBytes bs).length = (8 * bs.length + 4) / 5 := by
  rw [ofBytes, length_symbolsOfBits, length_flatMap_byteBits]

theorem length_checksum (variant : Variant) (hrp : List Char) (symbols : List Symbol) :
    (checksum variant hrp symbols).length = checksumSize := rfl

/-- How long the text of some bytes is under a human-readable part. -/
def textLength (hrp : List Char) (bytes : Nat) : Nat :=
  hrp.length + 1 + (8 * bytes + 4) / 5 + checksumSize

/-- The bytes have a text under a human-readable part exactly if this part may be written and the
text is not too long. -/
theorem encode_eq_ok_iff (hrp : List Char) (bs : List UInt8) :
    (∃ text, encode hrp bs = .ok text) ↔
      checkHrp hrp = .ok () ∧ textLength hrp bs.length ≤ maxLength := by
  have hlen : (hrp ++ separator :: (ofBytes bs ++ checksum .plain hrp (ofBytes bs)).map
      symbolChar).length = textLength hrp bs.length := by
    simp only [List.length_append, List.length_cons, List.length_map, length_ofBytes,
      length_checksum, textLength]
    omega
  cases hrpOk : checkHrp hrp with
  | error e => simp [encode, hrpOk, bind, Except.bind]
  | ok u =>
    simp only [encode, hrpOk, bind, Except.bind, hlen]
    split_ifs with h <;> simp [h]

end TxInspect.Bech32

namespace TxInspect.Address.Format

open Results

/-- The human-readable part may be written, and an address under it is not too long. -/
def IsValid (f : Format) : Prop :=
  Bech32.checkHrp f.hrp.toList = .ok () ∧
    Bech32.textLength f.hrp.toList f.size ≤ Bech32.maxLength

instance (f : Format) : Decidable f.IsValid :=
  inferInstanceAs (Decidable (_ ∧ _))

theorem encode_eq_ok_iff (f : Format) (bs : List UInt8) :
    (∃ text, f.encode bs = .ok text) ↔ bs.length = f.size ∧ f.IsValid := by
  rw [encode, checkSize]
  by_cases h : bs.length = f.size
  · have writable := Bech32.encode_eq_ok_iff f.hrp.toList bs
    rw [h] at writable
    rw [if_pos h, IsValid, ← writable]
    cases Bech32.encode f.hrp.toList bs <;> simp [bind, Except.bind, h]
  · rw [if_neg h]
    simp [bind, Except.bind, h]

/-- The valid formats are those in which every address has a text. -/
theorem isValid_iff (f : Format) :
    f.IsValid ↔ ∀ bs : List UInt8, bs.length = f.size → ∃ text, f.encode bs = .ok text := by
  constructor
  · intro valid bs h
    exact (encode_eq_ok_iff f bs).2 ⟨h, valid⟩
  · intro h
    exact ((encode_eq_ok_iff f _).1 (h (List.replicate f.size 0) List.length_replicate)).2

end TxInspect.Address.Format
