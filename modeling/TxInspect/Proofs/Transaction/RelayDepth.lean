import Mathlib.Algebra.Group.Nat.Defs
import Mathlib.Tactic.Common
import TxInspect.Proofs.Transaction.Envelopes

/-!
# How many envelopes lie around a transaction

Every envelope takes more than half of the data (`dataSize_lt_of_opens`), so under all envelopes of
a transaction there is a bare one, at a depth that is at most the logarithm of the number of data
bytes (`exists_nested`).  This depth is the threshold of the limit on envelopes: a lower limit is a
fault, and all limits from there on have one result (`describe_threshold`).
-/

namespace TxInspect.Transaction

variable {format : Address.Format} {tx : Transaction}

/-- Some number of envelopes lies around a bare transaction, and each of them doubles the data. -/
theorem exists_nested (format : Address.Format) (tx : Transaction) :
    ∃ n inner, Nested format n tx inner ∧ IsBare format inner ∧ 2 ^ n ≤ max 1 tx.dataSize := by
  -- By induction on the size of the data: what lies in an envelope is smaller.
  induction hsize : tx.dataSize using Nat.strongRecOn generalizing tx with
  | ind size ih =>
    subst hsize
    by_cases bare : IsBare format tx
    · exact ⟨0, tx, .here tx, bare, Nat.le_max_left 1 _⟩
    · obtain ⟨middle, opens⟩ : ∃ middle, Opens format tx middle := by
        simpa [IsBare] using bare
      -- Nothing lies in an envelope of less than two bytes, so the power doubles also at the end.
      have shorter := dataSize_lt_of_opens opens
      obtain ⟨n, inner, nested, hinner, hn⟩ := ih middle.dataSize (by omega) middle rfl
      refine ⟨n + 1, inner, .inside opens nested, hinner, ?_⟩
      rw [Nat.pow_succ]
      omega

/-- A limit that is not exceeded may be raised. -/
theorem result_describeWith_of_raised {low high : Nat} (hle : low ≤ high)
    (h : ∀ d, (describeWith format low tx).result ≠ .error (.tooDeep d)) :
    (describeWith format high tx).result = (describeWith format low tx).result := by
  obtain ⟨n, inner, nested, bare, -⟩ := exists_nested format tx
  have enough : n ≤ low := by
    by_contra hlt
    exact h low (result_describeWith_of_lt nested (by omega))
  rw [result_describeWith_of_le nested bare enough,
    result_describeWith_of_le nested bare (Nat.le_trans enough hle)]

/-- For every transaction there is a number of envelopes, at most the logarithm of the number of its
data bytes, that has to be allowed: with a lower limit the description fails for its depth, and with
this limit and all higher ones it has one result, which is not a fault of depth.  So a limit that is
not exceeded may be raised, a bare transaction is described in the same way without envelopes, and
the transaction in an envelope has less than half of its data. -/
theorem describe_threshold (name : String) (size : Nat) (tx : Transaction) :
    (∃ k, 2 ^ k ≤ max 1 tx.dataSize ∧
      (∀ cause, Base64.ofText tx.data = .error cause → k = 0) ∧
      (∀ limit < k, (describe ⟨name, size, limit⟩ tx).result = .error (.tooDeep limit)) ∧
      ∃ result : Except Fault Metadata, (∀ d, result ≠ .error (.tooDeep d)) ∧
        ∀ limit ≥ k, (describe ⟨name, size, limit⟩ tx).result = result) ∧
    (∀ low high, low ≤ high →
      (∀ d, (describe ⟨name, size, low⟩ tx).result ≠ .error (.tooDeep d)) →
      (describe ⟨name, size, high⟩ tx).result = (describe ⟨name, size, low⟩ tx).result) ∧
    (IsBare (.ofPrefix name size) tx → ∀ limit,
      (describe ⟨name, size, limit⟩ tx).result = (describe ⟨name, size, 0⟩ tx).result) ∧
    (∀ inner, Opens (.ofPrefix name size) tx inner → 2 * inner.dataSize < tx.dataSize) := by
  refine ⟨?_, ?_, ?_, ?_⟩
  · obtain ⟨k, inner, nested, bare, hk⟩ := exists_nested (.ofPrefix name size) tx
    refine ⟨k, hk, ?_, ?_, (describeWith (.ofPrefix name size) k tx).result, ?_, ?_⟩
    · intro cause h
      rw [dataSize_of_error h] at hk
      by_contra hne
      have := Nat.one_lt_two_pow hne
      omega
    · exact fun limit hlt => result_describeWith_of_lt nested hlt
    · rw [result_describeWith_of_le nested bare (Nat.le_refl k),
        ← result_describeWith_of_isBare bare 0]
      exact fun d h => failsOnly_describeWith_of_isBare bare 0 _ h d rfl
    · intro limit hle
      exact (result_describeWith_of_le nested bare hle).trans
        (result_describeWith_of_le nested bare (Nat.le_refl k)).symm
  · exact fun low high hle h => result_describeWith_of_raised hle h
  · exact fun bare limit => (result_describeWith_of_isBare bare limit).trans
      (result_describeWith_of_isBare bare 0).symm
  · intro inner opens
    have := dataSize_lt_of_opens opens
    omega

end TxInspect.Transaction
