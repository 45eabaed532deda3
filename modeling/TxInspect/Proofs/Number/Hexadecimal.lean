import Mathlib.Data.Nat.Digits.Defs
import TxInspect.Number.Hexadecimal
import TxInspect.Proofs.Codec.Hex

/-!
# Numbers in runs of hexadecimal digits

A run of digits states its number to base sixteen (`number`).  It is this amount unless it is empty
(`amount?_of_isDigit`), it is this count unless it is empty or its number does not fit in a word
(`count?_of_isDigit`), and it is this nonce if its number is positive and fits in 63 bits
(`nonce?_of_isDigit`).  An amount may also have a plus in front and `_` between its digits, and is
the number of the digits (`amount?_eq_some_iff`).
-/

namespace TxInspect.Hexadecimal

/-- The number of some digits, the highest digit first. -/
def number (cs : List Char) : Nat :=
  Nat.ofDigits 16 (cs.reverse.map fun c => (Digit.hexadecimal? c).getD 0)

theorem number_cons {c : Char} {d : Nat} (h : Digit.hexadecimal? c = some d) (cs : List Char) :
    number (c :: cs) = d * 16 ^ cs.length + number cs := by
  rw [number, List.reverse_cons, List.map_append, Nat.ofDigits_append, number]
  simp [h]
  ring

theorem digits?_of_isDigit {cs : List Char} (h : ∀ c ∈ cs, Hex.IsDigit c) (value : Nat) :
    digits? value cs = some (value * 16 ^ cs.length + number cs) := by
  induction cs generalizing value with
  | nil => simp [digits?, number]
  | cons c cs ih =>
    obtain ⟨d, hd⟩ := Option.isSome_iff_exists.1 ((Hex.isDigit_iff c).1 (h c List.mem_cons_self))
    rw [digits?, hd, number_cons hd]
    dsimp only
    rw [ih fun e he => h e (List.mem_cons_of_mem c he), List.length_cons, Nat.pow_succ]
    congr 1
    ring

theorem unsigned?_of_isDigit {cs : List Char} (nonempty : cs ≠ [])
    (h : ∀ c ∈ cs, Hex.IsDigit c) : unsigned? cs = some (number cs) := by
  rw [unsigned?, if_neg nonempty, digits?_of_isDigit h, Nat.zero_mul, Nat.zero_add]

variable {s : String}

/-- Digits have no sign in front. -/
theorem number?_of_isDigit (nonempty : s.toList ≠ []) (h : ∀ c ∈ s.toList, Hex.IsDigit c) :
    number? s = some (number s.toList) := by
  unfold number?
  split
  · next cs heq =>
    rw [heq] at h
    exact absurd (h '+' List.mem_cons_self) (by decide)
  · exact unsigned?_of_isDigit nonempty h

/-- Digits are an amount unless there are none. -/
theorem amount?_of_isDigit (digits : ∀ c ∈ s.toList, Hex.IsDigit c) :
    amount? s = if s = "" then none else some (number s.toList) := by
  have noPlus : '+' ∉ s.toList := fun h => absurd (digits '+' h) (by decide)
  have noLine : '_' ∉ s.toList := fun h => absurd (digits '_' h) (by decide)
  -- A digit is neither a plus nor `_`, so all that is read is the text itself.
  have unsigned : afterPlus s.toList = s.toList := by
    unfold afterPlus
    split
    · next heq => exact heq.symm
    · next cs _ heq => simp [heq] at noPlus
    · rfl
  have all : s.toList.filter (· ≠ '_') = s.toList := by
    refine List.filter_eq_self.2 fun c hc => decide_eq_true ?_
    rintro rfl
    exact noLine hc
  rw [amount?, unsigned]
  split
  · next heq => rw [if_pos (String.toList_eq_nil_iff.1 heq)]
  · next cs heq => simp [heq] at noLine
  · next nonempty _ =>
    rw [if_neg fun h => nonempty (String.toList_eq_nil_iff.2 h), all, digits?_of_isDigit digits,
      Nat.zero_mul, Nat.zero_add]

/-- Digits are a count unless there are none, or too many. -/
theorem count?_of_isDigit (digits : ∀ c ∈ s.toList, Hex.IsDigit c) :
    count? s = if s = "" ∨ 2 ^ 64 ≤ number s.toList then none else some (number s.toList) := by
  by_cases empty : s = ""
  · rw [if_pos (Or.inl empty), empty]
    rfl
  have nonempty : s.toList ≠ [] := mt String.toList_eq_nil_iff.1 empty
  rw [count?, number?_of_isDigit nonempty digits, Option.filter_some]
  have limit : Word.limit 64 = 2 ^ 64 := rfl
  simp only [limit, decide_eq_true_eq, empty, false_or]
  split_ifs with fits large
  · omega
  · rfl
  · rfl
  · omega

/-- Digits are a nonce if their number is positive and has no more than 63 bits. -/
theorem nonce?_of_isDigit (digits : ∀ c ∈ s.toList, Hex.IsDigit c) :
    nonce? s = if 1 ≤ number s.toList ∧ number s.toList ≤ 2 ^ 63 - 1 then some (number s.toList)
      else none := by
  by_cases empty : s = ""
  · subst empty
    rfl
  have nonempty : s.toList ≠ [] := mt String.toList_eq_nil_iff.1 empty
  have limit : Word.limit 63 = 2 ^ 63 := rfl
  rw [nonce?, number?_of_isDigit nonempty digits, Option.filter_some]
  refine if_congr ?_ rfl rfl
  simp only [limit, Bool.and_eq_true, decide_eq_true_eq]
  omega

/-- The only run of digits that is no amount is the empty one. -/
theorem amount?_eq_none (h : amount? s = none) (digits : ∀ c ∈ s.toList, Hex.IsDigit c) :
    s = "" := by
  rw [amount?_of_isDigit digits] at h
  split_ifs at h with empty
  exact empty

/-- A run of digits that is no count is empty, or its number does not fit in a word. -/
theorem count?_eq_none (h : count? s = none) (digits : ∀ c ∈ s.toList, Hex.IsDigit c) :
    s = "" ∨ 2 ^ 64 ≤ number s.toList := by
  rw [count?_of_isDigit digits] at h
  split_ifs at h with large
  exact large

/-! ### Amounts as they may be written -/

/-- Digits with `_` anywhere but in front, after at most one `+`. -/
def IsAmount (cs : List Char) : Prop :=
  ∃ ds, (cs = ds ∨ cs = '+' :: ds) ∧ ds ≠ [] ∧ ds.head? ≠ some '_' ∧
    ∀ c ∈ ds, c = '_' ∨ Hex.IsDigit c

theorem isDigit_of_digits? {cs : List Char} {value n : Nat} (h : digits? value cs = some n) :
    ∀ c ∈ cs, Hex.IsDigit c := by
  induction cs generalizing value with
  | nil => simp
  | cons c cs ih =>
    rw [digits?] at h
    split at h
    · next d hd => exact List.forall_mem_cons.2 ⟨(Hex.isDigit_iff c).2 (by simp [hd]), ih h⟩
    · cases h

theorem digits?_eq_some_iff {cs : List Char} {n : Nat} :
    digits? 0 cs = some n ↔ (∀ c ∈ cs, Hex.IsDigit c) ∧ n = number cs := by
  constructor
  · intro h
    have digits := isDigit_of_digits? h
    rw [digits?_of_isDigit digits, Nat.zero_mul, Nat.zero_add, Option.some.injEq] at h
    exact ⟨digits, h.symm⟩
  · rintro ⟨digits, rfl⟩
    rw [digits?_of_isDigit digits, Nat.zero_mul, Nat.zero_add]

theorem afterPlus_cases (cs : List Char) : cs = afterPlus cs ∨ cs = '+' :: afterPlus cs := by
  unfold afterPlus
  split
  · exact Or.inl rfl
  · exact Or.inr rfl
  · exact Or.inl rfl

theorem afterPlus_of_ne {cs : List Char} (h : cs.head? ≠ some '+') :
    afterPlus cs = cs ∧ afterPlus ('+' :: cs) = cs := by
  constructor
  · unfold afterPlus
    split <;> simp at h ⊢
  · unfold afterPlus
    split
    · next heq => simp_all
    · next heq => exact (List.cons.inj heq).2.symm
    · next plain => exact absurd rfl (plain cs)

theorem isAmount_iff (cs : List Char) : IsAmount cs ↔
    afterPlus cs ≠ [] ∧ (afterPlus cs).head? ≠ some '_' ∧
      ∀ c ∈ afterPlus cs, c = '_' ∨ Hex.IsDigit c := by
  constructor
  · rintro ⟨ds, written, nonempty, front, digits⟩
    have noPlus : ds.head? ≠ some '+' := by
      intro plus
      exact absurd (digits '+' (List.mem_of_head? plus)) (by decide)
    have body : afterPlus cs = ds := by
      rcases written with rfl | rfl
      · exact (afterPlus_of_ne noPlus).1
      · exact (afterPlus_of_ne noPlus).2
    rw [body]
    exact ⟨nonempty, front, digits⟩
  · rintro ⟨nonempty, front, digits⟩
    exact ⟨afterPlus cs, afterPlus_cases cs, nonempty, front, digits⟩

instance (cs : List Char) : Decidable (IsAmount cs) :=
  haveI : Decidable (∀ c ∈ afterPlus cs, c = '_' ∨ Hex.IsDigit c) := List.decidableBAll _ _
  decidable_of_iff _ (isAmount_iff cs).symm

/-- An amount is the number of the digits in it. -/
theorem amount?_eq_some_iff {n : Nat} : amount? s = some n ↔
    IsAmount s.toList ∧ n = number (s.toList.filter fun c => Hex.IsDigit c) := by
  have same : s.toList.filter (fun c => decide (Hex.IsDigit c)) =
      (afterPlus s.toList).filter fun c => decide (Hex.IsDigit c) := by
    rcases afterPlus_cases s.toList with h | h
    · rw [← h]
    · rw [h, List.filter_cons_of_neg (by decide), ← h]
  rw [isAmount_iff, same, amount?]
  generalize afterPlus s.toList = ds
  split
  · simp
  · simp
  · next nonempty front =>
    have first : ds.head? ≠ some '_' := by
      intro h
      obtain ⟨tail, rfl⟩ := List.head?_eq_some_iff.1 h
      exact front tail rfl
    have digits : (∀ c ∈ ds.filter (· ≠ '_'), Hex.IsDigit c) ↔
        ∀ c ∈ ds, c = '_' ∨ Hex.IsDigit c := by
      simp only [List.mem_filter, decide_eq_true_eq, and_imp, or_iff_not_imp_left]
    rw [digits?_eq_some_iff, digits]
    by_cases all : ∀ c ∈ ds, c = '_' ∨ Hex.IsDigit c
    · have only : ds.filter (· ≠ '_') = ds.filter fun c => decide (Hex.IsDigit c) := by
        refine List.filter_congr fun c hc => decide_eq_decide.2 ⟨(all c hc).resolve_left, ?_⟩
        rintro digit rfl
        exact absurd digit (by decide)
      rw [only]
      exact and_congr_left' (iff_of_true all ⟨nonempty, first, all⟩)
    · exact iff_of_false (fun h => all h.1) fun h => all h.1.2.2

/-- Without a plus and `_` an amount is a run of digits, and the number of the run. -/
theorem IsAmount.isDigit {cs : List Char} (h : IsAmount cs) (noPlus : '+' ∉ cs)
    (noLine : '_' ∉ cs) :
    cs ≠ [] ∧ (∀ c ∈ cs, Hex.IsDigit c) ∧ cs.filter (fun c => Hex.IsDigit c) = cs := by
  obtain ⟨ds, rfl | rfl, nonempty, -, digits⟩ := h
  · have all : ∀ c ∈ cs, Hex.IsDigit c := fun c hc =>
      (digits c hc).resolve_left fun line => noLine (line ▸ hc)
    exact ⟨nonempty, all, List.filter_eq_self.2 fun c hc => decide_eq_true (all c hc)⟩
  · exact absurd List.mem_cons_self noPlus

end TxInspect.Hexadecimal
