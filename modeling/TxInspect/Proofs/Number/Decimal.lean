import Mathlib.Tactic.Common
import TxInspect.Number.Decimal

/-!
# Decimal amounts

The texts of amounts are digits, with a plus in front or without one (`isSome_amount?_iff`).  An
amount that is written in digits is the amount that is read from them (`amount?_text`), so different
amounts have different texts (`text_injective`).
-/

namespace TxInspect.Decimal

theorem decimal?_of_isDigit {c : Char} (h : c.isDigit = true) :
    Digit.decimal? c = some (c.toNat - '0'.toNat) := by
  have bounds : '0'.toNat ≤ c.toNat ∧ c.toNat ≤ '9'.toNat := by
    simpa [Char.isDigit, UInt32.le_iff_toNat_le] using h
  rw [Digit.decimal?, if_pos bounds]

theorem isDigit_iff (c : Char) : c.isDigit = true ↔ (Digit.decimal? c).isSome := by
  constructor
  · intro h
    rw [decimal?_of_isDigit h]
    rfl
  · intro h
    unfold Digit.decimal? at h
    split_ifs at h with bounds
    · simpa [Char.isDigit, UInt32.le_iff_toNat_le] using bounds
    · cases h

theorem digits?_of_isDigit {cs : List Char} (h : ∀ c ∈ cs, c.isDigit = true) (value : Nat) :
    digits? value cs = some (Nat.ofDigitChars 10 cs value) := by
  induction cs generalizing value with
  | nil => rfl
  | cons c cs ih =>
    rw [digits?, decimal?_of_isDigit (h c List.mem_cons_self), Nat.ofDigitChars_cons,
      Nat.mul_comm 10]
    exact ih (fun d hd => h d (List.mem_cons_of_mem c hd)) _

theorem isDigit_of_digits? {cs : List Char} {value n : Nat} (h : digits? value cs = some n) :
    ∀ c ∈ cs, c.isDigit = true := by
  fun_induction digits? value cs with
  | case1 => simp
  | case2 value c cs d hd ih =>
    refine List.forall_mem_cons.2 ⟨(isDigit_iff c).2 ?_, ih h⟩
    rw [hd]
    rfl
  | case3 => cases h

theorem isSome_unsigned?_iff (cs : List Char) :
    (unsigned? cs).isSome ↔ cs ≠ [] ∧ ∀ c ∈ cs, c.isDigit = true := by
  unfold unsigned?
  split_ifs with empty
  · simp [empty]
  · constructor
    · intro h
      obtain ⟨n, hn⟩ := Option.isSome_iff_exists.1 h
      exact ⟨empty, isDigit_of_digits? hn⟩
    · rintro ⟨-, digits⟩
      rw [digits?_of_isDigit digits]
      rfl

/-- One or more digits, with a plus in front or without one. -/
def IsAmount (cs : List Char) : Prop :=
  ∃ digits, digits ≠ [] ∧ (∀ c ∈ digits, c.isDigit = true) ∧ (cs = digits ∨ cs = '+' :: digits)

theorem isSome_amount?_iff (s : String) : (amount? s).isSome ↔ IsAmount s.toList := by
  unfold amount?
  split
  · next cs h =>
    rw [isSome_unsigned?_iff, h]
    constructor
    · rintro ⟨nonempty, digits⟩
      exact ⟨cs, nonempty, digits, Or.inr rfl⟩
    · rintro ⟨digits, nonempty, all, rfl | heq⟩
      · exact absurd (all '+' List.mem_cons_self) (by decide)
      · cases heq
        exact ⟨nonempty, all⟩
  · next noPlus =>
    rw [isSome_unsigned?_iff]
    constructor
    · rintro ⟨nonempty, digits⟩
      exact ⟨s.toList, nonempty, digits, Or.inl rfl⟩
    · rintro ⟨digits, nonempty, all, rfl | heq⟩
      · exact ⟨nonempty, all⟩
      · exact absurd heq (noPlus digits)

theorem isDigit_of_mem_text {n : Nat} {c : Char} (h : c ∈ (text n).toList) : c.isDigit = true := by
  rw [text, String.toList_ofList] at h
  exact Nat.isDigit_of_mem_toDigits (by decide) (by decide) h

theorem text_ne_empty (n : Nat) : text n ≠ "" := by
  intro h
  have := congrArg String.toList h
  rw [text, String.toList_ofList] at this
  exact Nat.toDigits_ne_nil this

theorem unsigned?_text (n : Nat) : unsigned? (text n).toList = some n := by
  have nonempty : (text n).toList ≠ [] := by simpa using text_ne_empty n
  rw [unsigned?, if_neg nonempty, digits?_of_isDigit fun c => isDigit_of_mem_text, text,
    String.toList_ofList, Nat.ofDigitChars_ten_toDigits]

/-- An amount in decimal digits is read back. -/
theorem amount?_text (n : Nat) : amount? (text n) = some n := by
  unfold amount?
  split
  · next cs h =>
    have plus : '+' ∈ (text n).toList := by simp [h]
    exact absurd (isDigit_of_mem_text plus) (by decide)
  · exact unsigned?_text n

/-- Amounts are shown in the digits of the standard library. -/
theorem text_eq_toString (n : Nat) : text n = toString n := rfl

theorem text_injective : Function.Injective text := by
  intro m n h
  have same := congrArg amount? h
  rwa [amount?_text, amount?_text, Option.some.injEq] at same

end TxInspect.Decimal
