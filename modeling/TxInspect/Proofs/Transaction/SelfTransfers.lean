import Mathlib.Tactic.Common
import TxInspect.Proofs.Address.Correspondence
import TxInspect.Proofs.Transaction.Shape
import TxInspect.Proofs.Transaction.SingleTransfers
import TxInspect.Proofs.Transaction.Tower

/-!
# Transfers on the sender, in an envelope

Two kinds of transfers are called on the sender itself.  In an envelope with JSON, sender and
receiver are raw addresses in base64, and the transfer is recognized exactly if they are the same
bytes (`describe_payload_of_function`): their texts are the same only then
(`Address.Format.encode_inj`).  A recognized transfer is never described as its own call, since it
keeps fewer arguments than it had.
-/

namespace TxInspect.Transaction

open Results

variable {format : Address.Format} {tx inner : Transaction} {m moved : Metadata}
  {kind : TransferKind} {name : String} {args rest : List String}

/-! ### The call of a transfer -/

/-- A data field that makes the call of a transfer, with any number of arguments. -/
theorem result_describeOuter_of_function {value : Nat} (hvalue : readValue tx.value = .ok value)
    (hdata : Base64.ofText tx.data = .ok (callBytes kind.function args))
    (hex : ∀ arg ∈ args, Hex.isText arg = true) :
    (describeOuter tx).result =
      .ok ((Metadata.plain tx.sender tx.receiver value).withCall kind.function args) := by
  apply result_describeOuter_of_callText hvalue hdata _ (separator_notMem_function kind) hex
  cases args with
  | nil => cases kind <;> decide
  | cons arg args => exact callText_ne_nil (List.cons_ne_nil arg args)

/-- In an envelope or not, the transaction is described by its own call. -/
theorem result_describeWith_of_nested {n max : Nat} (nested : Nested format n tx inner)
    (hle : n ≤ max) (outer : (describeOuter inner).result = .ok (m.withCall kind.function args)) :
    (describeWith format max tx).result = withTransfer format (m.withCall kind.function args) := by
  have closed := unwrap?_withCall_function format m kind args
  have bare : IsBare format inner := by
    intro deeper opens
    obtain ⟨own, houter, hin⟩ := opens_iff.1 opens
    cases outer.symm.trans houter
    rw [closed] at hin
    cases hin
  rw [result_describeWith_of_le nested bare hle, bareResult, outer]
  simp only [bind, Except.bind, closed]
  rfl

/-! ### Sender and receiver as raw addresses -/

/-- An envelope with JSON opens to a transaction with the texts of its raw addresses. -/
theorem PayloadEnvelope.opens (format : Address.Format) {data : List UInt8}
    (e : PayloadEnvelope format.size data) {value : Nat} {sender receiver : String}
    (hvalue : readValue tx.value = .ok value)
    (hdata : Base64.ofText tx.data = .ok (callBytes "relayedTx" [e.payload]))
    (hsender : format.encode e.sender = .ok sender)
    (hreceiver : format.encode e.receiver = .ok receiver) :
    Opens format tx ⟨sender, receiver, e.fields.data, Decimal.text e.fields.value⟩ := by
  have inside : (Envelope.payload e).inside format tx.receiver =
      .ok ⟨sender, receiver, e.fields.data, Decimal.text e.fields.value⟩ := by
    rw [Envelope.inside, hsender, hreceiver]
    rfl
  exact (Envelope.payload e).opens hvalue hdata inside

/-- The envelope is described by the call inside, with the texts of the raw addresses. -/
theorem PayloadEnvelope.result_describe (settings : Settings) (depth : 1 ≤ settings.maxRelayDepth)
    (e : PayloadEnvelope settings.addressSize (callBytes kind.function args))
    (hex : ∀ arg ∈ args, Hex.isText arg = true) {value : Nat} {sender receiver : String}
    (hvalue : readValue tx.value = .ok value)
    (hdata : Base64.ofText tx.data = .ok (callBytes "relayedTx" [e.payload]))
    (hsender : settings.format.encode e.sender = .ok sender)
    (hreceiver : settings.format.encode e.receiver = .ok receiver) :
    (describe settings tx).result = withTransfer settings.format
      ((Metadata.plain sender receiver e.fields.value).withCall kind.function args) := by
  have opens : Opens settings.format tx
      ⟨sender, receiver, e.fields.data, Decimal.text e.fields.value⟩ :=
    PayloadEnvelope.opens settings.format e hvalue hdata hsender hreceiver
  have outer : (describeOuter
      ⟨sender, receiver, e.fields.data, Decimal.text e.fields.value⟩).result =
        .ok ((Metadata.plain sender receiver e.fields.value).withCall kind.function args) :=
    result_describeOuter_of_function (readValue_text _) e.ofText_data hex
  exact result_describeWith_of_nested (.inside opens (.here _)) depth outer

/-- A transfer on the sender in an envelope with JSON, whoever sends the envelope to whom and with
what amount.  If the envelope states the same bytes as sender and as receiver, the answer is that of
the recognizer, a transfer or a fault, and never the call as it stands.  If it states different
bytes, the answer is the call as it stands, whatever its arguments are. -/
theorem describe_payload_of_function (settings : Settings) (valid : settings.format.IsValid)
    (depth : 1 ≤ settings.maxRelayDepth) (kind : TransferKind) (onSender : kind ≠ .fungible)
    (args : List String) (hex : ∀ arg ∈ args, Hex.IsRun arg.toList)
    (e : PayloadEnvelope settings.addressSize (callBytes kind.function args)) :
    ∃ sender receiver, settings.format.encode e.sender = .ok sender ∧
      settings.format.encode e.receiver = .ok receiver ∧
      ∀ tx : Transaction, (∃ value, readValue tx.value = .ok value) →
        Base64.ofText tx.data = .ok (callBytes "relayedTx" [e.payload]) →
        (e.sender = e.receiver →
          (describe settings tx).result.map some = recognized? kind settings.format
              ((Metadata.plain sender receiver e.fields.value).withCall kind.function args) ∧
            ∀ m, (describe settings tx).result = .ok m →
              m.call? ≠ some (kind.function, args)) ∧
        (e.sender ≠ e.receiver → (describe settings tx).result =
          .ok ((Metadata.plain sender receiver e.fields.value).withCall kind.function args)) := by
  have written := (Address.Format.isValid_iff settings.format).1 valid
  obtain ⟨sender, hsender⟩ := written e.sender e.length_sender
  obtain ⟨receiver, hreceiver⟩ := written e.receiver e.length_receiver
  refine ⟨sender, receiver, hsender, hreceiver, fun tx ⟨value, hvalue⟩ hdata => ?_⟩
  have texts : ∀ arg ∈ args, Hex.isText arg = true := fun arg harg =>
    (Hex.isText_iff arg).2 (hex arg harg)
  have described := e.result_describe settings depth texts hvalue hdata hsender hreceiver
  constructor
  · intro same
    have self : sender = receiver := by
      rw [same, hreceiver] at hsender
      exact (Except.ok.inj hsender).symm
    have arguments : transferArguments? kind
        ((Metadata.plain sender receiver e.fields.value).withCall kind.function args) = some args :=
      transferArguments?_eq_some_iff.2 ⟨call?_withCall _ _ _, Or.inr self⟩
    rw [described, recognized?, arguments, withTransfer_of_transferArguments? _ arguments]
    refine ⟨rfl, fun m hm own => ?_⟩
    exact Nat.lt_irrefl _ (length_lt_of_transfer hm own)
  · intro different
    rw [described]
    apply withTransfer_of_not_isTransfer
    rintro name args' call (rfl | ⟨self, -⟩)
    · rw [call?_withCall, Option.some.injEq, Prod.mk.injEq] at call
      exact onSender (function_injective call.1)
    · apply different
      have low := Address.Format.isCapital_hrp_ofPrefix settings.addressPrefix settings.addressSize
      have self : sender = receiver := self
      exact Address.Format.encode_inj low hsender (self ▸ hreceiver)

/-- The JSON of an envelope with addresses of one byte. -/
def sampleJson (sender receiver : String) (data : List UInt8) : List UInt8 :=
  Utf8.bytes ("\x7b\"sender\":\"" ++ sender ++ "\",\"receiver\":\"" ++ receiver ++
    "\",\"data\":\"" ++ Base64.toText data ++ "\"\x7d")

/-- A token that an account moves on itself. -/
def sampleMove : PayloadEnvelope 1 (callBytes "ESDTNFTTransfer" ["54", "0a", "05", "03"]) where
  payload := Hex.toText (sampleJson "Ag==" "Ag=="
    (callBytes "ESDTNFTTransfer" ["54", "0a", "05", "03"]))
  json := sampleJson "Ag==" "Ag==" (callBytes "ESDTNFTTransfer" ["54", "0a", "05", "03"])
  fields := ⟨0, "Ag==", "Ag==", 0, 0, 0,
    Base64.toText (callBytes "ESDTNFTTransfer" ["54", "0a", "05", "03"]), "", "", 0⟩
  sender := [2]
  receiver := [2]
  ofText_payload := Hex.ofText_toText _
  ofText_json := by decide +kernel
  ofText_sender := rfl
  length_sender := rfl
  ofText_receiver := rfl
  length_receiver := rfl
  ofText_data := Base64.ofText_toText _

/-- A call with too few arguments to another account. -/
def sampleStray : PayloadEnvelope 1 (callBytes "MultiESDTNFTTransfer" ["0a"]) where
  payload := Hex.toText (sampleJson "Ag==" "Aw==" (callBytes "MultiESDTNFTTransfer" ["0a"]))
  json := sampleJson "Ag==" "Aw==" (callBytes "MultiESDTNFTTransfer" ["0a"])
  fields := ⟨0, "Ag==", "Aw==", 0, 0, 0,
    Base64.toText (callBytes "MultiESDTNFTTransfer" ["0a"]), "", "", 0⟩
  sender := [2]
  receiver := [3]
  ofText_payload := Hex.ofText_toText _
  ofText_json := by decide +kernel
  ofText_sender := rfl
  length_sender := rfl
  ofText_receiver := rfl
  length_receiver := rfl
  ofText_data := Base64.ofText_toText _

theorem describe_payload_samples :
    (describe ⟨"erd", 1, 1⟩
        ⟨"x", "y", Base64.toText (callBytes "relayedTx" [sampleMove.payload]), "5"⟩).result =
      .ok ⟨"erd1qgqpwtd2", "erd1qv0tvdzs", 5, none, none, [⟨5, .nonFungible "T" "0a"⟩]⟩ ∧
    (describe ⟨"erd", 1, 1⟩
        ⟨"x", "x", Base64.toText (callBytes "relayedTx" [sampleStray.payload]), ""⟩).result =
      .ok ⟨"erd1qgqpwtd2", "erd1qv0tvdzs", 0, some "MultiESDTNFTTransfer", some ["0a"], []⟩ := by
  have valid : (Settings.format ⟨"erd", 1, 1⟩).IsValid := by decide
  have first : (Settings.format ⟨"erd", 1, 1⟩).encode [2] = .ok "erd1qgqpwtd2" := by
    decide +kernel
  have second : (Settings.format ⟨"erd", 1, 1⟩).encode [3] = .ok "erd1qv0tvdzs" := by
    decide +kernel
  constructor
  · obtain ⟨sender, receiver, hsender, hreceiver, h⟩ := describe_payload_of_function
      ⟨"erd", 1, 1⟩ valid (by decide) .nonFungible (by decide) _ (by decide) sampleMove
    cases first.symm.trans hsender
    cases first.symm.trans hreceiver
    have recognized : recognized? .nonFungible (Settings.format ⟨"erd", 1, 1⟩)
        ((Metadata.plain "erd1qgqpwtd2" "erd1qgqpwtd2" 0).withCall "ESDTNFTTransfer"
          ["54", "0a", "05", "03"]) =
        .ok (some ⟨"erd1qgqpwtd2", "erd1qv0tvdzs", 5, none, none,
          [⟨5, .nonFungible "T" "0a"⟩]⟩) := by decide +kernel
    have described := ((h ⟨"x", "y", _, "5"⟩ ⟨5, by decide⟩ (Base64.ofText_toText _)).1 rfl).1
    obtain ⟨m, hm, heq⟩ := map_eq_ok_iff.1 (described.trans recognized)
    cases heq
    exact hm
  · obtain ⟨sender, receiver, hsender, hreceiver, h⟩ := describe_payload_of_function
      ⟨"erd", 1, 1⟩ valid (by decide) .multiple (by decide) _ (by decide) sampleStray
    cases first.symm.trans hsender
    cases second.symm.trans hreceiver
    exact (h ⟨"x", "x", _, ""⟩ ⟨0, by decide⟩ (Base64.ofText_toText _)).2 (by decide)

end TxInspect.Transaction
