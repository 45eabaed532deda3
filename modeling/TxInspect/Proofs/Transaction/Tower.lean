import Mathlib.Tactic.Common
import TxInspect.Proofs.Address.Validity
import TxInspect.Proofs.Transaction.Envelopes

/-!
# Towers of envelopes

An `Envelope` is put together around some data, with arguments or with JSON, and a `Tower` out of
envelopes around the data of a transaction.  Whoever describes a tower describes the transaction in
the middle, provided that enough envelopes may be opened (`describe_tower`).  The transaction in the
middle is found from outside to inside, since the sender in an envelope with arguments is the
receiver around it (`Envelope.inside`, `Tower.middle`).
-/

namespace TxInspect.Transaction

open Results

/-- The parts of an envelope with arguments around some data.  Nonce and signature are any
hexadecimal texts. -/
structure ArgumentsEnvelope (size : Nat) (data : List UInt8) where
  receiver : List UInt8
  receiverText : String
  nonce : String
  dataText : String
  signature : String
  length_receiver : receiver.length = size
  ofText_receiverText : Hex.ofText receiverText = .ok receiver
  isText_nonce : Hex.isText nonce = true
  ofText_dataText : Hex.ofText dataText = .ok data
  isText_signature : Hex.isText signature = true

/-- The parts of an envelope with JSON around some data. -/
structure PayloadEnvelope (size : Nat) (data : List UInt8) where
  payload : String
  json : List UInt8
  fields : Inner
  sender : List UInt8
  receiver : List UInt8
  ofText_payload : Hex.ofText payload = .ok json
  ofText_json : Inner.ofText json = .ok fields
  ofText_sender : Base64.ofText fields.sender = .ok sender
  length_sender : sender.length = size
  ofText_receiver : Base64.ofText fields.receiver = .ok receiver
  length_receiver : receiver.length = size
  ofText_data : Base64.ofText fields.data = .ok data

/-- An envelope around some data, its addresses `size` bytes long. -/
inductive Envelope (size : Nat) (data : List UInt8) where
  | arguments (e : ArgumentsEnvelope size data)
  | payload (e : PayloadEnvelope size data)

namespace Envelope

variable {size : Nat} {data : List UInt8}

/-- The data field of the envelope. -/
def bytes : Envelope size data → List UInt8
  | .arguments e => callBytes "relayedTxV2" [e.receiverText, e.nonce, e.dataText, e.signature]
  | .payload e => callBytes "relayedTx" [e.payload]

/-- The transaction in an envelope that is sent to `outerReceiver`. -/
def inside (format : Address.Format) (outerReceiver : String) :
    Envelope size data → Except Address.Fault Transaction
  | .arguments e => do
    let receiver ← format.encode e.receiver
    return { sender := outerReceiver, receiver, data := Base64.toText data, value := "0" }
  | .payload e => do
    let sender ← format.encode e.sender
    let receiver ← format.encode e.receiver
    return { sender, receiver, data := e.fields.data, value := Decimal.text e.fields.value }

end Envelope

/-- Envelopes around the data of a transaction; the index is the data of the whole. -/
inductive Tower (size : Nat) : List UInt8 → Type where
  | core (data : List UInt8) : Tower size data
  | around {data : List UInt8} (e : Envelope size data) (inner : Tower size data) :
    Tower size e.bytes

namespace Tower

variable {size : Nat} {data : List UInt8}

/-- The number of envelopes. -/
def height : {data : List UInt8} → Tower size data → Nat
  | _, .core _ => 0
  | _, .around _ inner => inner.height + 1

/-- The transaction in the middle, when the tower is the data field of `tx`. -/
def middle (format : Address.Format) :
    {data : List UInt8} → Tower size data → Transaction → Except Address.Fault Transaction
  | _, .core _, tx => .ok tx
  | _, .around e inner, tx => e.inside format tx.receiver >>= inner.middle format

end Tower

/-! ### One envelope -/

variable {format : Address.Format} {tx inner : Transaction} {data : List UInt8}

namespace Envelope

/-- In a valid format there is a transaction in every envelope, with the data around which the
envelope was put. -/
theorem exists_inside (valid : format.IsValid) (e : Envelope format.size data)
    (outerReceiver : String) :
    ∃ inner, e.inside format outerReceiver = .ok inner ∧ Base64.ofText inner.data = .ok data ∧
      ∃ value, readValue inner.value = .ok value := by
  have written := format.isValid_iff.1 valid
  cases e with
  | arguments e =>
    obtain ⟨receiver, hreceiver⟩ := written e.receiver e.length_receiver
    refine ⟨⟨outerReceiver, receiver, Base64.toText data, "0"⟩, ?_, Base64.ofText_toText data, 0,
      readValue_zero⟩
    rw [inside, hreceiver]
    rfl
  | payload e =>
    obtain ⟨sender, hsender⟩ := written e.sender e.length_sender
    obtain ⟨receiver, hreceiver⟩ := written e.receiver e.length_receiver
    refine ⟨⟨sender, receiver, e.fields.data, Decimal.text e.fields.value⟩, ?_, e.ofText_data,
      e.fields.value, readValue_text e.fields.value⟩
    rw [inside, hsender, hreceiver]
    rfl

/-- An envelope opens to the transaction in it. -/
theorem opens (e : Envelope format.size data) {value : Nat}
    (hvalue : readValue tx.value = .ok value) (hdata : Base64.ofText tx.data = .ok e.bytes)
    (hin : e.inside format tx.receiver = .ok inner) : Opens format tx inner := by
  cases e with
  | arguments e =>
    obtain ⟨receiver, hreceiver, heq⟩ := bind_eq_ok_iff.1 hin
    cases heq
    refine opens_arguments hvalue hdata (isText_of_ofText e.ofText_receiverText) e.isText_nonce
      e.isText_signature ?_
    rw [unwrapArguments, hexBytes, e.ofText_dataText, Address.Format.encodeHex,
      Address.Format.hexBytes, e.ofText_receiverText]
    simp only [Except.mapError, bind, Except.bind, hreceiver]
    rfl
  | payload e =>
    obtain ⟨sender, hsender, h⟩ := bind_eq_ok_iff.1 hin
    obtain ⟨receiver, hreceiver, heq⟩ := bind_eq_ok_iff.1 h
    cases heq
    refine opens_payload hvalue hdata ?_
    rw [unwrapPayload, hexBytes, e.ofText_payload]
    simp only [Except.mapError, bind, Except.bind, e.ofText_json, base64Address, e.ofText_sender,
      e.ofText_receiver, hsender, hreceiver]
    rfl

end Envelope

/-! ### Towers -/

/-- In a valid format all envelopes of a tower lie around the transaction in its middle. -/
theorem Tower.exists_middle (valid : format.IsValid) (t : Tower format.size data) {value : Nat}
    (hvalue : readValue tx.value = .ok value) (hdata : Base64.ofText tx.data = .ok data) :
    ∃ inner, t.middle format tx = .ok inner ∧ Nested format t.height tx inner := by
  -- From outside to inside: the transaction in an envelope depends on the one around it, so the
  -- hypothesis has to hold for every outer transaction.
  induction t generalizing tx value with
  | core data => exact ⟨tx, rfl, .here tx⟩
  | around e _ ih =>
    obtain ⟨next, hnext, hdata', value', hvalue'⟩ := e.exists_inside valid tx.receiver
    obtain ⟨inner, hinner, nested⟩ := ih hvalue' hdata'
    refine ⟨inner, ?_, .inside (e.opens hvalue hdata hnext) nested⟩
    rw [middle, hnext]
    exact hinner

/-- A tower of envelopes around a transaction that is none itself is described as this transaction
alone, success or failure, if so many envelopes may be opened.  Otherwise it is a fault of depth. -/
theorem describe_tower (settings : Settings) (valid : settings.format.IsValid) {data : List UInt8}
    (t : Tower settings.addressSize data) (tx : Transaction)
    (hvalue : ∃ value, readValue tx.value = .ok value)
    (hdata : Base64.ofText tx.data = .ok data) :
    ∃ inner, t.middle settings.format tx = .ok inner ∧
      (IsBare settings.format inner →
        (describe settings tx).result =
          if t.height ≤ settings.maxRelayDepth then (describe settings inner).result
          else .error (.tooDeep settings.maxRelayDepth)) := by
  obtain ⟨value, hvalue⟩ := hvalue
  obtain ⟨inner, hinner, nested⟩ := t.exists_middle valid hvalue hdata
  refine ⟨inner, hinner, fun bare => ?_⟩
  split_ifs with hle
  · exact (result_describeWith_of_le nested bare hle).trans
      (result_describeWith_of_isBare bare _).symm
  · exact result_describeWith_of_lt nested (Nat.lt_of_not_le hle)

/-- A transaction with addresses of one byte and the data `hi`, in an envelope with JSON. -/
def samplePayload : PayloadEnvelope 1 [104, 105] where
  payload := Hex.toText
    (Utf8.bytes "\x7b\"sender\":\"AA==\",\"receiver\":\"AQ==\",\"data\":\"aGk=\"\x7d")
  json := Utf8.bytes "\x7b\"sender\":\"AA==\",\"receiver\":\"AQ==\",\"data\":\"aGk=\"\x7d"
  fields := ⟨0, "AA==", "AQ==", 0, 0, 0, "aGk=", "", "", 0⟩
  sender := [0]
  receiver := [1]
  ofText_payload := Hex.ofText_toText _
  ofText_json := by decide +kernel
  ofText_sender := rfl
  length_sender := rfl
  ofText_receiver := rfl
  length_receiver := rfl
  ofText_data := rfl

/-- The same transaction with an envelope with arguments around the first one. -/
def sampleArguments : ArgumentsEnvelope 1 (Envelope.payload samplePayload).bytes where
  receiver := [171]
  receiverText := "aB"
  nonce := ""
  dataText := Hex.toText (Envelope.payload samplePayload).bytes
  signature := "00"
  length_receiver := rfl
  ofText_receiverText := rfl
  isText_nonce := rfl
  ofText_dataText := Hex.ofText_toText _
  isText_signature := rfl

/-- Both envelopes around the data `hi`. -/
def sampleTower : Tower 1 (Envelope.arguments sampleArguments).bytes :=
  .around (.arguments sampleArguments) (.around (.payload samplePayload) (.core [104, 105]))

/-- The transaction that is sent in the outer envelope. -/
def sampleOuter : Transaction :=
  ⟨"", "", Base64.toText (Envelope.arguments sampleArguments).bytes, "5"⟩

/-- The transaction in the middle. -/
def sampleInner : Transaction :=
  ⟨"erd1qq7428nh", "erd1qy3lgpud", "aGk=", "0"⟩

theorem middle_sampleTower :
    sampleTower.middle (.ofPrefix "erd" 1) sampleOuter = .ok sampleInner := by
  decide +kernel

theorem isBare_sampleInner : IsBare (.ofPrefix "erd" 1) sampleInner := by
  have nothing : inside? (.ofPrefix "erd" 1) sampleInner = .ok none := by decide +kernel
  intro inner opens
  rw [Opens, nothing] at opens
  cases opens

theorem describe_sampleOuter :
    (describe ⟨"erd", 1, 2⟩ sampleOuter).result = (describe ⟨"erd", 1, 2⟩ sampleInner).result ∧
      (describe ⟨"erd", 1, 1⟩ sampleOuter).result = .error (.tooDeep 1) := by
  constructor
  · obtain ⟨inner, hinner, h⟩ := describe_tower ⟨"erd", 1, 2⟩ (by decide) sampleTower sampleOuter
      ⟨5, by decide⟩ (Base64.ofText_toText _)
    cases middle_sampleTower.symm.trans hinner
    exact (h isBare_sampleInner).trans (if_pos (by decide))
  · obtain ⟨inner, hinner, h⟩ := describe_tower ⟨"erd", 1, 1⟩ (by decide) sampleTower sampleOuter
      ⟨5, by decide⟩ (Base64.ofText_toText _)
    cases middle_sampleTower.symm.trans hinner
    exact (h isBare_sampleInner).trans (if_neg (by decide))

end TxInspect.Transaction
