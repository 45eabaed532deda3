import Mathlib.Tactic.Common
import TxInspect.Proofs.Results
import TxInspect.Transaction.Decoder

/-!
# The arguments of a transfer

A transfer is read from the arguments of the transaction's own call
(`transferArguments?_eq_some_iff`), and whoever finds a transfer has read it from them
(`findTransfer_eq_some`).  Without such arguments, no transfer is found (`findTransfer_eq_none`).
-/

namespace TxInspect.Transaction

open Results

variable {format : Address.Format} {m moved : Metadata} {kind : TransferKind}
  {args : List String}

theorem argumentsOf?_eq_some_iff {function : String} :
    m.argumentsOf? function = some args ↔ m.call? = some (function, args) := by
  unfold Metadata.argumentsOf?
  split
  · next name own call =>
    rw [call]
    split_ifs with h
    · simp [h]
    · simp [h]
  · next call => simp [call]

/-- The call names the kind.  Only a fungible transfer may have another receiver than the sender. -/
theorem transferArguments?_eq_some_iff :
    transferArguments? kind m = some args ↔
      m.call? = some (kind.function, args) ∧ (kind = .fungible ∨ m.sender = m.receiver) := by
  cases kind with
  | fungible => simp [transferArguments?, argumentsOf?_eq_some_iff]
  | nonFungible =>
    by_cases same : m.sender = m.receiver
    · simp [transferArguments?, argumentsOf?_eq_some_iff, same]
    · simp [transferArguments?, same]
  | multiple =>
    by_cases same : m.sender = m.receiver
    · simp [transferArguments?, argumentsOf?_eq_some_iff, same]
    · simp [transferArguments?, same]

theorem recognized?_eq_some (h : recognized? kind format m = .ok (some moved)) :
    ∃ args, transferArguments? kind m = some args ∧ transfer format m args kind = .ok moved := by
  unfold recognized? at h
  split at h
  · cases h
  · next args hargs =>
    obtain ⟨result, hresult, heq⟩ := map_eq_ok_iff.1 h
    cases heq
    exact ⟨args, hargs, hresult⟩

theorem findTransfer_eq_some {kinds : List TransferKind}
    (h : findTransfer format m kinds = .ok (some (kind, moved))) :
    ∃ args, transferArguments? kind m = some args ∧ transfer format m args kind = .ok moved := by
  induction kinds with
  | nil => cases h
  | cons first kinds ih =>
    rw [findTransfer] at h
    obtain ⟨found, hfound, h⟩ := bind_eq_ok_iff.1 h
    cases found with
    | none => exact ih h
    | some result =>
      cases h
      exact recognized?_eq_some hfound

theorem findTransfer_eq_none (format : Address.Format) {kinds : List TransferKind}
    (h : ∀ kind ∈ kinds, transferArguments? kind m = none) :
    findTransfer format m kinds = .ok none := by
  induction kinds with
  | nil => rfl
  | cons first kinds ih =>
    rw [findTransfer, recognized?, h first List.mem_cons_self]
    exact ih fun kind hkind => h kind (List.mem_cons_of_mem first hkind)

/-- The parts of a group stand among the arguments. -/
theorem mem_of_mem_triples {group : String × String × String} (h : group ∈ triples args) :
    group.1 ∈ args ∧ group.2.1 ∈ args ∧ group.2.2 ∈ args := by
  fun_induction triples args with
  | case1 a b c rest ih =>
    rcases List.mem_cons.1 h with rfl | h
    · simp
    · obtain ⟨h1, h2, h3⟩ := ih h
      simp [h1, h2, h3]
  | case2 => cases h

end TxInspect.Transaction
