import Mathlib.Tactic.Common
import TxInspect.Proofs.Results
import TxInspect.Proofs.Transaction.Faults
import TxInspect.Transaction.Decoder

/-!
# Envelopes around a transaction

A transaction opens to another one (`Opens`), or it is bare (`IsBare`).  Where `n` envelopes lie
around a bare transaction (`Nested`), the description of the whole is the description of that one
if `n` envelopes may be opened (`result_describeWith_of_le`), and a fault of depth otherwise
(`result_describeWith_of_lt`).  A bare transaction fails for one of its parts
(`failsOnly_of_isBare`), and that is no fault of depth (`failsOnly_describeWith_of_isBare`).
-/

namespace TxInspect.Transaction

open Results

/-- The transaction in an envelope, or nothing if the transaction is none. -/
def inside? (format : Address.Format) (tx : Transaction) : Except Fault (Option Transaction) :=
  (describeOuter tx).result >>= unwrap? format

/-- The transaction is an envelope, and `inner` lies in it. -/
def Opens (format : Address.Format) (tx inner : Transaction) : Prop :=
  inside? format tx = .ok (some inner)

/-- No transaction can be taken out of this one. -/
def IsBare (format : Address.Format) (tx : Transaction) : Prop :=
  ∀ inner, ¬ Opens format tx inner

/-- So many envelopes lie around the inner transaction. -/
inductive Nested (format : Address.Format) : Nat → Transaction → Transaction → Prop where
  | here (tx : Transaction) : Nested format 0 tx tx
  | inside {n : Nat} {tx middle inner : Transaction} (opens : Opens format tx middle)
    (nested : Nested format n middle inner) : Nested format (n + 1) tx inner

/-- The description of a bare transaction, before transfers are looked for. -/
def bareResult (format : Address.Format) (tx : Transaction) : Except Fault Metadata := do
  let m ← (describeOuter tx).result
  let _ ← unwrap? format m
  return m

variable {format : Address.Format} {tx inner : Transaction} {n left : Nat}

theorem opens_iff : Opens format tx inner ↔
    ∃ m, (describeOuter tx).result = .ok m ∧ unwrap? format m = .ok (some inner) :=
  bind_eq_ok_iff

/-! ### One envelope -/

/-- The result of describing a transaction by the results of its parts. -/
theorem result_describeInner (format : Address.Format) (opened left : Nat) (tx : Transaction) :
    (describeInner format opened left tx).result =
      (describeOuter tx).result >>= fun m => unwrap? format m >>= fun
        | none => .ok m
        | some inner =>
          match left with
          | 0 => .error (.tooDeep opened)
          | left + 1 => (describeInner format (opened + 1) left inner).result := by
  cases left with
  | zero =>
    simp only [describeInner, Log.Account.result_bind]
    refine bind_congr fun m => bind_congr fun found => ?_
    cases found <;> rfl
  | succ left =>
    simp only [describeInner, Log.Account.result_bind]
    refine bind_congr fun m => bind_congr fun found => ?_
    cases found <;> rfl

theorem result_describeInner_of_isBare (bare : IsBare format tx) (opened left : Nat) :
    (describeInner format opened left tx).result = bareResult format tx := by
  rw [result_describeInner, bareResult]
  cases houter : (describeOuter tx).result with
  | error e => rfl
  | ok m =>
    cases hin : unwrap? format m with
    | error e => simp [hin, bind, Except.bind]
    | ok found =>
      cases found with
      | none => simp [hin, bind, Except.bind, pure, Except.pure]
      | some inner => exact absurd (opens_iff.2 ⟨m, houter, hin⟩) (bare inner)

theorem result_describeInner_zero (opens : Opens format tx inner) (opened : Nat) :
    (describeInner format opened 0 tx).result = .error (.tooDeep opened) := by
  obtain ⟨m, houter, hin⟩ := opens_iff.1 opens
  simp [result_describeInner, houter, hin, bind, Except.bind]

theorem result_describeInner_succ (opens : Opens format tx inner) (opened left : Nat) :
    (describeInner format opened (left + 1) tx).result =
      (describeInner format (opened + 1) left inner).result := by
  obtain ⟨m, houter, hin⟩ := opens_iff.1 opens
  rw [result_describeInner]
  simp [houter, hin, bind, Except.bind]

/-- An envelope that does not open. -/
theorem result_describeInner_of_error {e : Fault} (h : inside? format tx = .error e)
    (opened left : Nat) : (describeInner format opened left tx).result = .error e := by
  rw [result_describeInner]
  rw [inside?] at h
  cases houter : (describeOuter tx).result with
  | error e' =>
    rw [houter] at h
    cases h
    rfl
  | ok m =>
    have closed : unwrap? format m = .error e := by
      rw [houter] at h
      exact h
    simp [closed, bind, Except.bind]

/-- Two envelopes with the same transaction inside, or with the same fault. -/
theorem result_describeInner_congr {other : Transaction}
    (same : inside? format other = inside? format tx) (envelope : inside? format tx ≠ .ok none)
    (opened left : Nat) : (describeInner format opened left other).result =
      (describeInner format opened left tx).result := by
  cases own : inside? format tx with
  | error e =>
    rw [result_describeInner_of_error own, result_describeInner_of_error (same.trans own)]
  | ok found =>
    cases found with
    | none => exact absurd own envelope
    | some inner =>
      have opens : Opens format tx inner := own
      have opens' : Opens format other inner := same.trans own
      cases left with
      | zero => rw [result_describeInner_zero opens, result_describeInner_zero opens']
      | succ left => rw [result_describeInner_succ opens, result_describeInner_succ opens']

/-! ### All envelopes -/

/-- Enough envelopes may be opened: only the transaction in the middle counts. -/
theorem Nested.result_of_le (nested : Nested format n tx inner) (bare : IsBare format inner)
    (hle : n ≤ left) (opened : Nat) :
    (describeInner format opened left tx).result = bareResult format inner := by
  -- Each envelope counts one up and leaves one less, so both numbers vary.
  induction nested generalizing opened left with
  | here tx => exact result_describeInner_of_isBare bare opened left
  | inside opens _ ih =>
    obtain ⟨more, rfl⟩ : ∃ more, left = more + 1 := ⟨left - 1, by omega⟩
    rw [result_describeInner_succ opens]
    exact ih bare (by omega) (opened + 1)

/-- Too few envelopes may be opened. -/
theorem Nested.result_of_lt (nested : Nested format n tx inner) (hlt : left < n) (opened : Nat) :
    (describeInner format opened left tx).result = .error (.tooDeep (opened + left)) := by
  induction nested generalizing opened left with
  | here tx => omega
  | inside opens _ ih =>
    cases left with
    | zero => exact result_describeInner_zero opens opened
    | succ left =>
      rw [result_describeInner_succ opens, ih (by omega), Nat.add_right_comm, Nat.add_assoc]

/-- What is made of the transaction in the middle. -/
def withTransfer (format : Address.Format) (m : Metadata) : Except Fault Metadata :=
  (findTransfer format m TransferKind.all).map fun found => (found.map Prod.snd).getD m

theorem result_describeWith (format : Address.Format) (max : Nat) (tx : Transaction) :
    (describeWith format max tx).result =
      (describeInner format 0 max tx).result >>= withTransfer format := by
  simp only [describeWith, Log.Account.result_bind]
  refine bind_congr fun m => ?_
  rw [withTransfer]
  change (findTransfer format m TransferKind.all >>= _) = _
  cases findTransfer format m TransferKind.all with
  | error e => rfl
  | ok found => cases found <;> rfl

variable {max : Nat}

theorem result_describeWith_of_isBare (bare : IsBare format tx) (max : Nat) :
    (describeWith format max tx).result = bareResult format tx >>= withTransfer format := by
  rw [result_describeWith, result_describeInner_of_isBare bare]

theorem result_describeWith_of_le (nested : Nested format n tx inner) (bare : IsBare format inner)
    (hle : n ≤ max) :
    (describeWith format max tx).result = bareResult format inner >>= withTransfer format := by
  rw [result_describeWith, nested.result_of_le bare hle]

theorem result_describeWith_of_lt (nested : Nested format n tx inner) (hlt : max < n) :
    (describeWith format max tx).result = .error (.tooDeep max) := by
  rw [result_describeWith, nested.result_of_lt hlt, Nat.zero_add]
  rfl

/-- A fault of a bare transaction: its own, one of an envelope that does not open, or one of a
transfer. -/
def Fault.OfBare (format : Address.Format) (tx : Transaction) (e : Fault) : Prop :=
  e.OfOuter tx ∨ ∃ m, (describeOuter tx).result = .ok m ∧
    (e.OfEnvelope format m ∨ ∃ kind args, transferArguments? kind m = some args ∧
      e.OfTransfer format kind args)

theorem Fault.OfBare.notTooDeep {e : Fault} (h : e.OfBare format tx) : e.NotTooDeep := by
  rintro d rfl
  obtain own | ⟨m, -, envelope | ⟨kind, args, -, transfer⟩⟩ := h
  · exact own
  · exact envelope
  · exact transfer

theorem failsOnly_of_isBare (bare : IsBare format tx) (max : Nat) :
    FailsOnly (Fault.OfBare format tx) (describeWith format max tx).result := by
  rw [result_describeWith_of_isBare bare, bareResult]
  have outer : FailsOnly (Fault.OfBare format tx) (describeOuter tx).result :=
    (failsOnly_describeOuter tx).mono fun e => Or.inl
  refine FailsOnly.bind (FailsOnly.bind outer fun m hm => ?_) fun m h => ?_
  · have envelope := failsOnly_unwrap? format (isText_of_call? hm)
    refine FailsOnly.bind (envelope.mono fun e he => ?_) fun _ _ => failsOnly_ok m
    exact Or.inr ⟨m, hm, Or.inl he⟩
  · obtain ⟨m', hm, h⟩ := bind_eq_ok_iff.1 h
    obtain ⟨-, -, h⟩ := bind_eq_ok_iff.1 h
    cases h
    have transfer := failsOnly_findTransfer format (isText_of_call? hm) TransferKind.all
    refine FailsOnly.map (transfer.mono fun e he => ?_) _
    exact Or.inr ⟨m, hm, Or.inr he⟩

/-- The description of a bare transaction does not fail for its depth. -/
theorem failsOnly_describeWith_of_isBare (bare : IsBare format tx) (max : Nat) :
    FailsOnly Fault.NotTooDeep (describeWith format max tx).result :=
  (failsOnly_of_isBare bare max).mono fun _ => Fault.OfBare.notTooDeep

end TxInspect.Transaction
