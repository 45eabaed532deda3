import Mathlib.Algebra.Group.Nat.Defs
import Mathlib.Tactic.Common
import TxInspect.Codec.Bech32.Checksum

/-!
# One checksum for some symbols

Feeding a register is linear (`feed_xor`), so what symbols add to it does not depend on what it
holds (`feedAll_xor`).  A register takes symbols in one next to the other while it has room
(`toNat_feedAll`), and six of them fill it.  Therefore the symbols that bring a register to a target
are the checksum that is written, and no others (`checked_append_iff`).
-/

namespace TxInspect.Bech32

theorem ite_xor {n : Nat} (p q : Bool) (c : BitVec n) :
    (if p ^^ q then c else 0) = (if p then c else 0) ^^^ (if q then c else 0) := by
  cases p <;> cases q <;> simp

theorem feedback_xor (a b : Symbol) : feedback (a ^^^ b) = feedback a ^^^ feedback b := by
  simp only [feedback, BitVec.getLsbD_xor, ite_xor]
  ac_rfl

/-- A register is fed in a linear way. -/
theorem feed_xor (r x : Register) (s t : Symbol) :
    feed (r ^^^ x) (s ^^^ t) = feed r s ^^^ feed x t := by
  simp only [feed, BitVec.shiftLeft_xor_distrib, BitVec.ushiftRight_xor_distrib,
    BitVec.setWidth_xor, feedback_xor]
  ac_rfl

/-- What symbols add to a register does not depend on the register. -/
theorem feedAll_xor (r x : Register) (symbols : List Symbol) :
    feedAll (r ^^^ x) symbols =
      feedAll r (List.replicate symbols.length 0) ^^^ feedAll x symbols := by
  induction symbols generalizing r x with
  | nil => rfl
  | cons s symbols ih =>
    have zero : (0 : Symbol) ^^^ s = s := BitVec.zero_xor
    have step := feed_xor r x 0 s
    rw [zero] at step
    simp only [feedAll, List.foldl_cons, List.length_cons, List.replicate_succ, step]
    exact ih (feed r 0) (feed x s)

theorem shiftLeft_xor_of_lt (a : Nat) {b : Nat} (h : b < 2 ^ 5) : a <<< 5 ^^^ b = 32 * a + b := by
  have power : 32 * a = 2 ^ 5 * a := rfl
  apply Nat.eq_of_testBit_eq
  intro i
  rw [power, Nat.testBit_two_pow_mul_add a h, Nat.testBit_xor, Nat.testBit_shiftLeft]
  by_cases hi : i < 5
  · simp [hi, Nat.not_le.2 hi]
  · have small : b < 2 ^ i := Nat.lt_of_lt_of_le h (Nat.pow_le_pow_right (by decide) (by omega))
    simp [hi, Nat.le_of_not_lt hi, Nat.testBit_lt_two_pow small]

/-- A register with room for one more symbol takes it in at its end. -/
theorem toNat_feed {r : Register} (h : r.toNat < 2 ^ 25) (s : Symbol) :
    (feed r s).toNat = 32 * r.toNat + s.toNat := by
  have top : r >>> 25 = 0 := by
    apply BitVec.eq_of_toNat_eq
    rw [BitVec.toNat_ushiftRight, Nat.shiftRight_eq_div_pow, Nat.div_eq_of_lt h]
    rfl
  have none : feedback (BitVec.setWidth 5 (0 : Register)) = 0#30 := by decide
  have hs := s.isLt
  have room : r.toNat <<< 5 < 2 ^ 30 := by
    rw [Nat.shiftLeft_eq]
    omega
  rw [feed, top, none, BitVec.xor_zero, BitVec.toNat_xor, BitVec.toNat_shiftLeft,
    BitVec.toNat_setWidth, Nat.mod_eq_of_lt room, Nat.mod_eq_of_lt (by omega),
    shiftLeft_xor_of_lt _ hs]

/-- A register with room for some symbols takes in one next to the other. -/
theorem toNat_feedAll {r : Register} {symbols : List Symbol}
    (room : (r.toNat + 1) * 32 ^ symbols.length ≤ 32 ^ checksumSize) :
    (feedAll r symbols).toNat = symbols.foldl (fun n s => 32 * n + s.toNat) r.toNat := by
  induction symbols generalizing r with
  | nil => rfl
  | cons s symbols ih =>
    have hs := s.isLt
    rw [List.length_cons, Nat.pow_succ'] at room
    have one : r.toNat < 2 ^ 25 := by
      have pos : 0 < 32 ^ symbols.length := Nat.pow_pos (by decide)
      have := Nat.le_trans (Nat.mul_le_mul_left (r.toNat + 1) (Nat.le_mul_of_pos_right 32 pos)) room
      have size : 32 ^ checksumSize = 2 ^ 30 := rfl
      omega
    have step := toNat_feed one s
    have rest : ((feed r s).toNat + 1) * 32 ^ symbols.length ≤ 32 ^ checksumSize :=
      calc ((feed r s).toNat + 1) * 32 ^ symbols.length
          ≤ (r.toNat + 1) * 32 * 32 ^ symbols.length := Nat.mul_le_mul_right _ (by omega)
        _ = (r.toNat + 1) * (32 * 32 ^ symbols.length) := Nat.mul_assoc _ _ _
        _ ≤ 32 ^ checksumSize := room
    rw [List.foldl_cons, ← step]
    exact ih rest

/-- The number in a register that starts at zero and is filled with six symbols. -/
theorem toNat_feedAll_zero (a b c d e f : Symbol) :
    (feedAll 0#30 [a, b, c, d, e, f]).toNat =
      32 * (32 * (32 * (32 * (32 * a.toNat + b.toNat) + c.toNat) + d.toNat) + e.toNat)
        + f.toNat := by
  have room : ((0#30).toNat + 1) * 32 ^ checksumSize ≤ 32 ^ checksumSize := by decide
  have size : [a, b, c, d, e, f].length = checksumSize := rfl
  rw [toNat_feedAll (size ▸ room)]
  simp

/-- A register is filled with its own symbols. -/
theorem feedAll_registerSymbols (r : Register) : feedAll 0#30 (registerSymbols r) = r := by
  apply BitVec.eq_of_toNat_eq
  have hr := r.isLt
  rw [registerSymbols, toNat_feedAll_zero]
  simp only [BitVec.toNat_setWidth, BitVec.toNat_ushiftRight, Nat.shiftRight_eq_div_pow]
  omega

/-- A full register has the symbols that it has been filled with. -/
theorem registerSymbols_feedAll {symbols : List Symbol} (h : symbols.length = checksumSize) :
    registerSymbols (feedAll 0#30 symbols) = symbols := by
  match symbols, h with
  | [a, b, c, d, e, f], _ =>
    have whole := toNat_feedAll_zero a b c d e f
    have ha := a.isLt
    have hb := b.isLt
    have hc := c.isLt
    have hd := d.isLt
    have he := e.isLt
    have hf := f.isLt
    simp only [registerSymbols, List.cons.injEq, and_true]
    refine ⟨?_, ?_, ?_, ?_, ?_, ?_⟩ <;> apply BitVec.eq_of_toNat_eq <;>
      simp only [BitVec.toNat_setWidth, BitVec.toNat_ushiftRight, Nat.shiftRight_eq_div_pow,
        whole] <;> omega

theorem residue_append (hrp : List Char) (symbols more : List Symbol) :
    residue hrp (symbols ++ more) = feedAll (residue hrp symbols) more := by
  rw [residue, residue, feedAll, feedAll, feedAll, ← List.foldl_append, List.append_assoc]

/-- There is one checksum of each variant for some symbols, the one that is written. -/
theorem checked_append_iff (variant : Variant) (hrp : List Char) (symbols : List Symbol)
    {last : List Symbol} (h : last.length = checksumSize) :
    checked variant hrp (symbols ++ last) = true ↔ last = checksum variant hrp symbols := by
  have apart := feedAll_xor (residue hrp symbols) 0#30 last
  rw [BitVec.xor_zero, h] at apart
  rw [checked, residue_append, beq_iff_eq, apart, checksum]
  generalize feedAll (residue hrp symbols) (List.replicate checksumSize 0) = rest
  constructor
  · intro reached
    rw [← reached, ← BitVec.xor_assoc, BitVec.xor_self, BitVec.zero_xor, registerSymbols_feedAll h]
  · intro written
    rw [written, feedAll_registerSymbols, ← BitVec.xor_assoc, BitVec.xor_self, BitVec.zero_xor]

end TxInspect.Bech32
