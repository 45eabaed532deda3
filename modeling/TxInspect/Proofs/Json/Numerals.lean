import Mathlib.Tactic.Common
import TxInspect.Proofs.Json.Members
import TxInspect.Proofs.Json.Printing
import TxInspect.Proofs.Number.Decimal

/-!
# Numbers in digits alone

The digits of a number take the machine from the place in front of a value into the number
(`exists_isNumber`), which is an unsigned integer (`PartialNumeral.IsNumber.unsigned?_eq`) and in
range if it fits in a word (`PartialNumeral.IsNumber.isOutOfRange_eq`).  Between the members of an
object it ends where any other value may end (`PartialNumeral.step_of_isWhole`).
-/

namespace TxInspect.Json

/-- So far the digits of the number have been read, without leading zeros. -/
structure PartialNumeral.IsNumber (p : PartialNumeral) (n : Nat) : Prop where
  numeral_eq : p.numeral = ⟨false, p.numeral.whole, [], none⟩
  phase_eq : p.phase = if n = 0 then .zero else .whole
  digitsValue_eq : digitsValue 0 p.numeral.whole = n
  scaled_eq : n < Word.limit 64 → p.numeral.whole.foldl Scaled.pushWhole ⟨0, 0⟩ = ⟨n, 0⟩

/-! ### Range -/

/-- Rounding no more than doubles a number. -/
theorem roundToDouble_le (n : Nat) : roundToDouble n ≤ 2 * n := by
  have unit_le : n ≠ 0 → 2 ^ (n.log2 + 1 - 53) ≤ n := by
    intro nonzero
    calc 2 ^ (n.log2 + 1 - 53) ≤ 2 ^ n.log2 := Nat.pow_le_pow_right (by decide) (by omega)
      _ ≤ n := Nat.log2_self_le nonzero
  have low_le := Nat.div_mul_le_self n (2 ^ (n.log2 + 1 - 53))
  unfold roundToDouble
  simp only [Nat.pow_eq]
  split_ifs with up
  · rw [Nat.add_mul, Nat.one_mul]
    by_cases zero : n = 0
    · subst zero
      simp at up
    · have := unit_le zero
      omega
  · omega

theorem isOutOfRange_of_lt {n : Nat} (h : n < Word.limit 64) :
    Scaled.isOutOfRange ⟨n, 0⟩ = false := by
  have limit : 2 * Word.limit 64 ≤ doubleLimit := by decide +kernel
  have one : roundToDouble 1 = 1 := by decide
  have bound := roundToDouble_le n
  have small : ¬ doubleLimit ≤ roundToDouble n := by omega
  simp [Scaled.isOutOfRange, one, small]

namespace PartialNumeral

variable {p : PartialNumeral} {n : Nat}

theorem IsNumber.unsigned?_eq (h : p.IsNumber n) : p.numeral.unsigned? = some n := by
  rw [h.numeral_eq, Numeral.unsigned?, if_pos ⟨rfl, rfl, rfl⟩, h.digitsValue_eq]

theorem IsNumber.isOutOfRange_eq (h : p.IsNumber n) (small : n < Word.limit 64) :
    p.numeral.isOutOfRange = false := by
  rw [h.numeral_eq]
  change Scaled.isOutOfRange (p.numeral.whole.foldl Scaled.pushWhole ⟨0, 0⟩) = false
  rw [h.scaled_eq small]
  exact isOutOfRange_of_lt small

theorem IsNumber.isWhole_eq (h : p.IsNumber n) : p.isWhole = true := by
  unfold isWhole
  rw [h.phase_eq]
  split_ifs <;> rfl

/-- A number that could end does so in front of a byte that goes on after a member. -/
theorem step_of_isWhole (whole : p.isWhole = true) {b : UInt8} (ends : EndsMember b) :
    p.step b = .finished := by
  have cases_b : b = 0x20 ∨ b = 0x09 ∨ b = 0x0A ∨ b = 0x0D ∨ b = 0x2C ∨ b = 0x7D := by
    simpa [EndsMember, isSpace, or_assoc] using ends
  rcases cases_b with rfl | rfl | rfl | rfl | rfl | rfl <;> exact if_pos whole

/-! ### Digits -/

theorem isNumber_first (d : Nat) : (first false d).IsNumber d where
  numeral_eq := rfl
  phase_eq := rfl
  digitsValue_eq := by simp [first, digitsValue]
  scaled_eq := by
    intro small
    simp [first, Scaled.pushWhole, small]

/-- One more digit. -/
theorem IsNumber.pushDigit (h : p.IsNumber n) (nonzero : n ≠ 0) (d : Nat) :
    ∃ q : PartialNumeral, p.pushDigit d = .more q ∧ q.IsNumber (n * 10 + d) := by
  have phase : p.phase = .whole := by rw [h.phase_eq, if_neg nonzero]
  refine ⟨⟨{ p.numeral with whole := p.numeral.whole ++ [d] }, .whole⟩, ?_, ?_⟩
  · simp only [PartialNumeral.pushDigit, phase]
  · constructor
    · rw [h.numeral_eq]
    · rw [if_neg (by omega)]
    · rw [digitsValue, List.foldl_append]
      exact congrArg (fun value => value * 10 + d) h.digitsValue_eq
    · intro small
      rw [List.foldl_append, h.scaled_eq (by omega)]
      exact if_pos ⟨rfl, small⟩

end PartialNumeral

/-- The byte of a digit is this digit and no white space. -/
theorem decimal?_digitChar {d : Nat} (h : d < 10) : ∃ b : UInt8,
    Utf8.encode [Nat.digitChar d] = [b] ∧ Digit.decimal? (Digit.ofByte b) = some d ∧
      isSpace b = false := by
  have all : ∀ m : Fin 10, Utf8.encode [Nat.digitChar m.val] =
        [UInt8.ofNat (Nat.digitChar m.val).toNat] ∧
      Digit.decimal? (Digit.ofByte (UInt8.ofNat (Nat.digitChar m.val).toNat)) = some m.val ∧
      isSpace (UInt8.ofNat (Nat.digitChar m.val).toNat) = false := by decide
  exact ⟨_, all ⟨d, h⟩⟩

/-- The digits of a number are read as this number. -/
theorem exists_isNumber (n : Nat) : ∃ p : PartialNumeral, p.IsNumber n ∧
    ∀ around, (State.reading around .value).after (Nat.toDigits 10 n) =
      .reading around (.number p) := by
  induction n using Nat.strongRecOn with
  | ind n ih =>
    rw [Nat.toDigits_eq_if (by decide)]
    split_ifs with single
    · obtain ⟨b, hb, digit, space⟩ := decimal?_digitChar single
      refine ⟨.first false n, PartialNumeral.isNumber_first n, fun around => ?_⟩
      rw [State.after, hb]
      simp only [List.foldl_cons, List.foldl_nil, State.step, State.stepReading, State.stepMark,
        State.startValue, digit, space, Bool.false_eq_true, if_false]
    · have last : n % 10 < 10 := Nat.mod_lt n (by decide)
      obtain ⟨b, hb, digit, -⟩ := decimal?_digitChar last
      obtain ⟨p, hp, front⟩ := ih (n / 10) (by omega)
      obtain ⟨q, hq, number⟩ := hp.pushDigit (by omega) (n % 10)
      refine ⟨q, ?_, fun around => ?_⟩
      · rwa [show n / 10 * 10 + n % 10 = n by omega] at number
      · have step : p.step b = .more q := by
          rw [PartialNumeral.step, digit]
          exact hq
        rw [State.after_append, front, State.after, hb]
        simp only [List.foldl_cons, List.foldl_nil, State.step, State.stepReading, step]

end TxInspect.Json
