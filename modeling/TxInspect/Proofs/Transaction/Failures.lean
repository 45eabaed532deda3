import Mathlib.Tactic.Common
import TxInspect.Proofs.Address.Validity
import TxInspect.Proofs.Transaction.RelayDepth

/-!
# How a description can fail

A fault of a description is one of depth, or one of the innermost transaction
(`describeWith_eq_error`).  Since envelopes hold amounts that can be read, an unreadable amount is
the outermost one (`describe_badValue_iff`), and since calls have hexadecimal arguments, few faults
are left of an address, a number and a list of arguments (`describe_failures`).
-/

namespace TxInspect.Address.Format

/-- In a valid format the only fault is the number of bytes. -/
theorem IsValid.eq_wrongLength {f : Format} (valid : f.IsValid) {bs : List UInt8} {cause : Fault}
    (h : f.encode bs = .error cause) :
    bs.length ≠ f.size ∧ cause = .wrongLength f.size bs.length := by
  have other : bs.length ≠ f.size := by
    intro length
    obtain ⟨text, htext⟩ := f.isValid_iff.1 valid bs length
    rw [htext] at h
    cases h
  rw [encode, checkSize, if_neg other] at h
  cases h
  exact ⟨other, rfl⟩

end TxInspect.Address.Format

namespace TxInspect.Transaction

open Results

variable {format : Address.Format} {tx inner : Transaction} {n max : Nat} {e : Fault}

/-- A description fails for its depth or for the innermost transaction. -/
theorem describeWith_eq_error (h : (describeWith format max tx).result = .error e) :
    e = .tooDeep max ∨ ∃ n inner, n ≤ max ∧ Nested format n tx inner ∧ IsBare format inner ∧
      e.OfBare format inner := by
  obtain ⟨n, inner, nested, bare, -⟩ := exists_nested format tx
  by_cases hle : n ≤ max
  · right
    rw [result_describeWith_of_le nested bare hle, ← result_describeWith_of_isBare bare max] at h
    exact ⟨n, inner, hle, nested, bare, failsOnly_of_isBare bare max e h⟩
  · left
    rw [result_describeWith_of_lt nested (by omega)] at h
    cases h
    rfl

/-- Only the amount of the outermost transaction may be unreadable. -/
theorem Nested.exists_value (nested : Nested format n tx inner) :
    inner = tx ∨ ∃ value, readValue inner.value = .ok value := by
  -- From outside to inside: either the envelope around `inner` comes next, or one further in.
  induction nested with
  | here tx => exact Or.inl rfl
  | inside opens _ ih =>
    right
    obtain rfl | value := ih
    · exact exists_value_of_opens opens
    · exact value

theorem readValue_eq_badValue_iff (text : String) :
    readValue text = .error .badValue ↔ text ≠ "" ∧ ¬ Decimal.IsAmount text.toList := by
  rw [← Decimal.isSome_amount?_iff, readValue]
  split_ifs with empty
  · simp [empty]
  · cases Decimal.amount? text <;> simp [empty]

theorem describeWith_badValue_iff :
    (describeWith format max tx).result = .error .badValue ↔
      tx.value ≠ "" ∧ ¬ Decimal.IsAmount tx.value.toList := by
  rw [← readValue_eq_badValue_iff]
  constructor
  · intro h
    obtain deep | ⟨n, inner, -, nested, -, own | ⟨m, -, envelope | ⟨kind, args, -, transfer⟩⟩⟩ :=
      describeWith_eq_error h
    · cases deep
    -- The innermost amount is unreadable, so it is not one from an envelope.
    · obtain rfl | ⟨value, hvalue⟩ := nested.exists_value
      · exact own
      · have unreadable : readValue inner.value = .error .badValue := own
        rw [hvalue] at unreadable
        cases unreadable
    · exact envelope.elim
    · exact transfer.elim
  · intro h
    rw [result_describeWith, result_describeInner, result_describeOuter, h]
    rfl

theorem describeWith_ne_badHex (argument : Argument) (cause : Hex.Fault) :
    (describeWith format max tx).result ≠ .error (.badHex argument cause) := by
  intro h
  obtain deep | ⟨n, inner, -, -, -, own | ⟨m, -, envelope | ⟨kind, args, -, transfer⟩⟩⟩ :=
    describeWith_eq_error h
  · cases deep
  · exact own
  · exact envelope
  · exact transfer

/-- In a valid format every fault of an address is one of an envelope. -/
theorem describeWith_eq_address (valid : format.IsValid) {cause : Address.Fault}
    (h : (describeWith format max tx).result = .error (.address cause)) :
    ∃ n inner m bs, n ≤ max ∧ Nested format n tx inner ∧ (describeOuter inner).result = .ok m ∧
      HoldsAddress m bs ∧ bs.length ≠ format.size ∧
      cause = .wrongLength format.size bs.length := by
  obtain deep | ⟨n, inner, hle, nested, -, own | ⟨m, hm, envelope | ⟨kind, args, -, transfer⟩⟩⟩ :=
    describeWith_eq_error h
  · cases deep
  · exact own.elim
  · obtain ⟨bs, holds, hbs⟩ := envelope
    obtain ⟨length, rfl⟩ := valid.eq_wrongLength hbs
    exact ⟨n, inner, m, bs, hle, nested, hm, holds, length, rfl⟩
  · obtain ⟨bs, length, hbs⟩ := transfer
    exact absurd length (valid.eq_wrongLength hbs).1

theorem describeWith_eq_badNumber {argument : Argument} {text : String}
    (h : (describeWith format max tx).result = .error (.badNumber argument text)) :
    text = "" ∨ argument = .transferCount ∧ Hex.IsRun text.toList ∧
      2 ^ 64 ≤ Hexadecimal.number text.toList := by
  obtain deep | ⟨n, inner, -, -, -, own | ⟨m, -, envelope | ⟨kind, args, -, transfer⟩⟩⟩ :=
    describeWith_eq_error h
  · cases deep
  · exact own.elim
  · exact envelope.elim
  · exact transfer

/-- Too few arguments are those of the innermost call. -/
theorem describeWith_eq_fewArguments {kind : TransferKind} {required found : Nat}
    (h : (describeWith format max tx).result = .error (.fewArguments kind required found)) :
    found < required ∧ ∃ n inner m args, n ≤ max ∧ Nested format n tx inner ∧
      IsBare format inner ∧ (describeOuter inner).result = .ok m ∧
      m.call? = some (kind.function, args) ∧ found = args.length := by
  obtain deep | ⟨n, inner, hle, nested, bare, own |
    ⟨m, hm, envelope | ⟨kind', args, arguments, transfer⟩⟩⟩ := describeWith_eq_error h
  · cases deep
  · exact own.elim
  · exact envelope.elim
  · obtain ⟨rfl, few, length⟩ := transfer
    obtain ⟨call, -⟩ := transferArguments?_eq_some_iff.1 arguments
    exact ⟨few, n, inner, m, args, hle, nested, bare, hm, call, length⟩

/-- How a description can fail in a valid format.  It fails for an amount exactly if the amount of
the outermost transaction is neither empty nor made of digits after at most one plus; the amounts in
envelopes can be read.  It never fails for a hexadecimal argument.  It fails for an address only in
an envelope, and only for the number of its bytes; for a number only if there is none, or if there
are to be too many transfers for a word of 64 bits; and for too few arguments only if the call of
the innermost transaction has fewer than it needs. -/
theorem describe_failures (settings : Settings) (valid : settings.format.IsValid)
    (tx : Transaction) :
    ((describe settings tx).result = .error .badValue ↔
      tx.value ≠ "" ∧ ¬ Decimal.IsAmount tx.value.toList) ∧
    (∀ outer inner, Opens settings.format outer inner →
      ∃ value, readValue inner.value = .ok value) ∧
    (∀ argument cause, (describe settings tx).result ≠ .error (.badHex argument cause)) ∧
    (∀ cause, (describe settings tx).result = .error (.address cause) →
      ∃ n inner m bs, n ≤ settings.maxRelayDepth ∧ Nested settings.format n tx inner ∧
        (describeOuter inner).result = .ok m ∧ HoldsAddress m bs ∧
        bs.length ≠ settings.addressSize ∧
        cause = .wrongLength settings.addressSize bs.length) ∧
    (∀ argument text, (describe settings tx).result = .error (.badNumber argument text) →
      text = "" ∨ argument = .transferCount ∧ Hex.IsRun text.toList ∧
        2 ^ 64 ≤ Hexadecimal.number text.toList) ∧
    (∀ kind required found,
      (describe settings tx).result = .error (.fewArguments kind required found) →
      found < required ∧ ∃ n inner m args, n ≤ settings.maxRelayDepth ∧
        Nested settings.format n tx inner ∧ IsBare settings.format inner ∧
        (describeOuter inner).result = .ok m ∧ m.call? = some (kind.function, args) ∧
        found = args.length) := by
  refine ⟨describeWith_badValue_iff, ?_, describeWith_ne_badHex, ?_, ?_, ?_⟩
  · exact fun outer inner opens => exists_value_of_opens opens
  · exact fun cause h => describeWith_eq_address valid h
  · exact fun argument text h => describeWith_eq_badNumber h
  · exact fun kind required found h => describeWith_eq_fewArguments h

/-- An envelope whose receiver has two bytes, where an address has one. -/
def sampleShort : Transaction where
  sender := ""
  receiver := ""
  data := Base64.toText (callBytes "relayedTxV2" ["0102", "", "", ""])
  value := "+7"

theorem describe_failures_sampleShort :
    (Settings.format ⟨"erd", 1, 2⟩).IsValid ∧
      (describe ⟨"erd", 1, 2⟩ sampleShort).result = .error (.address (.wrongLength 1 2)) ∧
      ∃ n inner m bs, n ≤ 2 ∧ Nested (.ofPrefix "erd" 1) n sampleShort inner ∧
        (describeOuter inner).result = .ok m ∧ HoldsAddress m bs ∧ bs.length ≠ 1 ∧
        Address.Fault.wrongLength 1 2 = .wrongLength 1 bs.length := by
  have valid : (Settings.format ⟨"erd", 1, 2⟩).IsValid := by decide
  have described : (describe ⟨"erd", 1, 2⟩ sampleShort).result =
      .error (.address (.wrongLength 1 2)) := by
    decide +kernel
  obtain ⟨-, -, -, address, -, -⟩ := describe_failures ⟨"erd", 1, 2⟩ valid sampleShort
  exact ⟨valid, described, address _ described⟩

end TxInspect.Transaction
