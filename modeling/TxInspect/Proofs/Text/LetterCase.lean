import Mathlib.Tactic.Common
import TxInspect.Address
import TxInspect.Proofs.Text.Utf8

/-!
# Texts in small letters

No capital letter of ASCII is left in a text in small letters (`isCapital_of_mem_lowerCase`), and an
ASCII text in small letters has the small form of each of its characters (`lowerCase_of_ascii`).
-/

namespace TxInspect.Text

open Bech32 (isCapital small)

theorem isCapital_eq_false_iff {c : Char} : isCapital c = false ↔ c.toNat < 65 ∨ 90 < c.toNat := by
  simp only [isCapital, Char.reduceToNat, Bool.and_eq_false_iff, decide_eq_false_iff_not]
  omega

/-- No letter beyond ASCII has its small letter among the capital letters of ASCII. -/
theorem offset_of_mem_capitals :
    ∀ r ∈ capitals, 128 ≤ r.last → 90 < (r.first : Int) + r.offset := by
  decide +kernel

theorem toNat_ofNat_eq (n : Nat) : (Char.ofNat n).toNat = n ∨ (Char.ofNat n).toNat = 0 := by
  by_cases valid : n.isValidChar
  · exact Or.inl (Utf8.toNat_ofNat_of_isValid valid)
  · rw [Char.ofNat, dif_neg valid]
    exact Or.inr rfl

theorem isCapital_smallLetter {c : Char} (h : 128 ≤ c.toNat) :
    isCapital (smallLetter c) = false := by
  rw [isCapital_eq_false_iff, smallLetter]
  split
  · next r hr =>
    have found := List.find?_some hr
    simp only [Bool.and_eq_true, decide_eq_true_eq] at found
    have high := offset_of_mem_capitals r (List.mem_of_find?_eq_some hr) (by omega)
    rcases toNat_ofNat_eq (c.toNat + r.offset).toNat with hn | hn
    · rw [hn]
      omega
    · rw [hn]
      omega
  · omega

theorem isCapital_of_mem_lowerCaseAfter {before cs : List Char} :
    ∀ c ∈ lowerCaseAfter before cs, isCapital c = false := by
  induction cs generalizing before with
  | nil => simp [lowerCaseAfter]
  | cons d cs ih =>
    intro c hc
    rw [lowerCaseAfter, List.mem_append] at hc
    rcases hc with hc | hc
    · split_ifs at hc with sigma final dotted ascii
      all_goals simp only [List.mem_cons, List.not_mem_nil, or_false] at hc
      · rw [hc]; decide
      · rw [hc]; decide
      · rcases hc with rfl | rfl <;> decide
      · rw [hc]
        exact Utf8.of_ascii (fun c => isCapital c.toLower = false) (by decide) ascii
      · rw [hc]
        exact isCapital_smallLetter (Nat.le_of_not_lt ascii)
    · exact ih c hc

/-- No capital letter of ASCII is left in a text in small letters. -/
theorem isCapital_of_mem_lowerCase {s : String} {c : Char} (h : c ∈ (lowerCase s).toList) :
    isCapital c = false := by
  rw [lowerCase, String.toList_ofList] at h
  exact isCapital_of_mem_lowerCaseAfter c h

theorem lowerCaseAfter_of_ascii {cs : List Char} (h : ∀ c ∈ cs, c.toNat < 128)
    (before : List Char) : lowerCaseAfter before cs = cs.map small := by
  induction cs generalizing before with
  | nil => rfl
  | cons c cs ih =>
    have ascii := h c List.mem_cons_self
    have plain : c ≠ 'Σ' ∧ c ≠ 'İ' ∧ c.toLower = small c :=
      Utf8.of_ascii (fun c => c ≠ 'Σ' ∧ c ≠ 'İ' ∧ c.toLower = small c) (by decide) ascii
    rw [lowerCaseAfter, ih fun d hd => h d (List.mem_cons_of_mem c hd)]
    simp [plain, ascii]

theorem lowerCase_of_ascii {s : String} (h : ∀ c ∈ s.toList, c.toNat < 128) :
    lowerCase s = String.ofList (s.toList.map small) := by
  rw [lowerCase, lowerCaseAfter_of_ascii h]

end TxInspect.Text
