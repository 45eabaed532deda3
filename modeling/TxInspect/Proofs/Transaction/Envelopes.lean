import Mathlib.Tactic.Common
import TxInspect.Proofs.Codec.Base64
import TxInspect.Proofs.Json.Records
import TxInspect.Proofs.Number.Decimal
import TxInspect.Proofs.Transaction.Calls
import TxInspect.Proofs.Transaction.Layers

/-!
# Opening an envelope

An envelope with arguments or with JSON opens to the transaction that its call states
(`opens_arguments`, `opens_payload`), and there are no other envelopes (`opens_cases`).  Its amount
can always be read (`exists_value_of_opens`).  The JSON reads if each of its fields does
(`Inner.ofNodes_record_eq_ok`).  The data of the transaction inside is less than half as long as the
data of the envelope (`dataSize_lt_of_opens`): it stands in it in hexadecimal.
-/

namespace TxInspect.Transaction

open Results

variable {format : Address.Format} {tx inner : Transaction} {bs : List UInt8}

/-- Every envelope that opens holds its transaction in JSON or as arguments. -/
theorem opens_cases (h : Opens format tx inner) :
    ∃ bs, Base64.ofText tx.data = .ok bs ∧
      ((∃ payload, Utf8.decodeLossy bs = callText "relayedTx" [payload] ∧
          unwrapPayload format payload = .ok inner) ∨
        ∃ receiver nonce data signature,
          Utf8.decodeLossy bs = callText "relayedTxV2" [receiver, nonce, data, signature] ∧
          unwrapArguments format tx.receiver receiver data = .ok inner) := by
  obtain ⟨m, houter, hin⟩ := opens_iff.1 h
  unfold unwrap? at hin
  split at hin
  · next payload call =>
    obtain ⟨bs, hbs, htext⟩ := exists_of_call? houter call
    obtain ⟨tx', hpayload, heq⟩ := map_eq_ok_iff.1 hin
    cases heq
    exact ⟨bs, hbs, Or.inl ⟨payload, htext, hpayload⟩⟩
  · next receiver nonce data signature call =>
    obtain ⟨bs, hbs, htext⟩ := exists_of_call? houter call
    obtain ⟨tx', harguments, heq⟩ := map_eq_ok_iff.1 hin
    cases heq
    rw [receiver_of_describeOuter houter] at harguments
    exact ⟨bs, hbs, Or.inr ⟨receiver, nonce, data, signature, htext, harguments⟩⟩
  · cases hin

theorem isText_of_ofText {s : String} (h : Hex.ofText s = .ok bs) : Hex.isText s = true :=
  isOk_iff.2 ⟨bs, h⟩

/-- Apart from its amount, a call with a payload in hexadecimal counts for this payload alone. -/
theorem inside?_payload {payload : String} (format : Address.Format)
    (hdata : Base64.ofText tx.data = .ok (callBytes "relayedTx" [payload]))
    (hpayload : Hex.isText payload = true) : inside? format tx =
      readValue tx.value >>= fun _ => (unwrapPayload format payload).map some := by
  unfold inside?
  cases hvalue : readValue tx.value with
  | error e =>
    rw [result_describeOuter, hvalue]
    rfl
  | ok value =>
    have hex : ∀ arg ∈ [payload], Hex.isText arg = true := by
      simpa using hpayload
    rw [result_describeOuter_of_callBytes hvalue hdata (by simp) (by decide) hex]
    rfl

/-- A call with JSON in hexadecimal is an envelope of the transaction in JSON. -/
theorem opens_payload {payload : String} {value : Nat} (hvalue : readValue tx.value = .ok value)
    (hdata : Base64.ofText tx.data = .ok (callBytes "relayedTx" [payload]))
    (hin : unwrapPayload format payload = .ok inner) : Opens format tx inner := by
  obtain ⟨json, hjson, -⟩ := bind_eq_ok_iff.1 hin
  have hpayload := isText_of_ofText (mapError_eq_ok_iff.1 hjson)
  unfold Opens
  rw [inside?_payload format hdata hpayload, hvalue, hin]
  rfl

/-- A call with receiver, nonce, data and signature is an envelope of the transaction from the
receiver of the envelope. -/
theorem opens_arguments {receiver nonce data signature : String} {value : Nat}
    (hvalue : readValue tx.value = .ok value)
    (hdata : Base64.ofText tx.data =
      .ok (callBytes "relayedTxV2" [receiver, nonce, data, signature]))
    (hreceiver : Hex.isText receiver = true) (hnonce : Hex.isText nonce = true)
    (hsignature : Hex.isText signature = true)
    (hin : unwrapArguments format tx.receiver receiver data = .ok inner) :
    Opens format tx inner := by
  obtain ⟨bs, hbs, -⟩ := bind_eq_ok_iff.1 hin
  have hex : ∀ arg ∈ [receiver, nonce, data, signature], Hex.isText arg = true := by
    simpa using ⟨hreceiver, hnonce, isText_of_ofText (mapError_eq_ok_iff.1 hbs), hsignature⟩
  have outer := result_describeOuter_of_callBytes hvalue hdata (by simp) (by decide) hex
  exact opens_iff.2 ⟨_, outer, map_eq_ok_iff.2 ⟨inner, hin, rfl⟩⟩

/-! ### What lies inside -/

theorem readValue_zero : readValue "0" = .ok 0 := by
  decide

theorem readValue_text (n : Nat) : readValue (Decimal.text n) = .ok n := by
  rw [readValue, if_neg (Decimal.text_ne_empty n), Decimal.amount?_text]

/-- The transaction in JSON has the data of its field and its amount in digits. -/
theorem unwrapPayload_eq_ok {payload : String} (h : unwrapPayload format payload = .ok inner) :
    ∃ json fields sender receiver, Hex.ofText payload = .ok json ∧ Inner.ofText json = .ok fields ∧
      inner = ⟨sender, receiver, fields.data, Decimal.text fields.value⟩ := by
  obtain ⟨json, hjson, h⟩ := bind_eq_ok_iff.1 h
  obtain ⟨fields, hfields, h⟩ := bind_eq_ok_iff.1 h
  obtain ⟨sender, -, h⟩ := bind_eq_ok_iff.1 h
  obtain ⟨receiver, -, h⟩ := bind_eq_ok_iff.1 h
  cases h
  exact ⟨json, fields, sender, receiver, mapError_eq_ok_iff.1 hjson, mapError_eq_ok_iff.1 hfields,
    rfl⟩

/-- The transaction in arguments has the data of its argument and no amount. -/
theorem unwrapArguments_eq_ok {outerReceiver receiver data : String}
    (h : unwrapArguments format outerReceiver receiver data = .ok inner) :
    ∃ bs text, Hex.ofText data = .ok bs ∧
      inner = ⟨outerReceiver, text, Base64.toText bs, "0"⟩ := by
  obtain ⟨bs, hbs, h⟩ := bind_eq_ok_iff.1 h
  obtain ⟨text, -, h⟩ := bind_eq_ok_iff.1 h
  cases h
  exact ⟨bs, text, mapError_eq_ok_iff.1 hbs, rfl⟩

/-- The amount inside an envelope is written in digits, so it can be read. -/
theorem exists_value_of_opens (h : Opens format tx inner) :
    ∃ value, readValue inner.value = .ok value := by
  obtain ⟨bs, -, ⟨payload, -, hin⟩ | ⟨receiver, nonce, data, signature, -, hin⟩⟩ := opens_cases h
  · obtain ⟨json, fields, sender, text, -, -, rfl⟩ := unwrapPayload_eq_ok hin
    exact ⟨fields.value, readValue_text fields.value⟩
  · obtain ⟨bs, text, -, rfl⟩ := unwrapArguments_eq_ok hin
    exact ⟨0, readValue_zero⟩

/-! ### The fields of the JSON -/

namespace Inner

/-- Every field is read from its node. -/
structure IsReadFrom (get : String → Option Json.Node) (inner : Inner) : Prop where
  nonce : (Json.Record.field "nonce" (.unsigned (Word.limit 64)) (some 0)).ofNodes get =
    .ok inner.nonce
  sender : (Json.Record.field "sender" .text none).ofNodes get = .ok inner.sender
  receiver : (Json.Record.field "receiver" .text none).ofNodes get = .ok inner.receiver
  value : (Json.Record.field "value" amount (some 0)).ofNodes get = .ok inner.value
  gasPrice : (Json.Record.field "gasPrice" (.unsigned (Word.limit 64)) (some 0)).ofNodes get =
    .ok inner.gasPrice
  gasLimit : (Json.Record.field "gasLimit" (.unsigned (Word.limit 64)) (some 0)).ofNodes get =
    .ok inner.gasLimit
  data : (Json.Record.field "data" (.nullable .text "") (some "")).ofNodes get = .ok inner.data
  signature : (Json.Record.field "signature" .text (some "")).ofNodes get = .ok inner.signature
  chainID : (Json.Record.field "chainID" .text (some "")).ofNodes get = .ok inner.chainID
  version : (Json.Record.field "version" (.unsigned (Word.limit 32)) (some 0)).ofNodes get =
    .ok inner.version

theorem ofNodes_record_eq_ok {get : String → Option Json.Node} {inner : Inner} :
    record.ofNodes get = .ok inner ↔ IsReadFrom get inner := by
  constructor
  · intro h
    obtain ⟨_, version, h1, hversion, rfl⟩ := Json.Record.ofNodes_seq_eq_ok.1 h
    obtain ⟨_, chainID, h2, hchainID, rfl⟩ := Json.Record.ofNodes_seq_eq_ok.1 h1
    obtain ⟨_, signature, h3, hsignature, rfl⟩ := Json.Record.ofNodes_seq_eq_ok.1 h2
    obtain ⟨_, data, h4, hdata, rfl⟩ := Json.Record.ofNodes_seq_eq_ok.1 h3
    obtain ⟨_, gasLimit, h5, hgasLimit, rfl⟩ := Json.Record.ofNodes_seq_eq_ok.1 h4
    obtain ⟨_, gasPrice, h6, hgasPrice, rfl⟩ := Json.Record.ofNodes_seq_eq_ok.1 h5
    obtain ⟨_, value, h7, hvalue, rfl⟩ := Json.Record.ofNodes_seq_eq_ok.1 h6
    obtain ⟨_, receiver, h8, hreceiver, rfl⟩ := Json.Record.ofNodes_seq_eq_ok.1 h7
    obtain ⟨_, sender, h9, hsender, rfl⟩ := Json.Record.ofNodes_seq_eq_ok.1 h8
    obtain ⟨nonce, hnonce, rfl⟩ := Json.Record.ofNodes_map_eq_ok.1 h9
    exact ⟨hnonce, hsender, hreceiver, hvalue, hgasPrice, hgasLimit, hdata, hsignature, hchainID,
      hversion⟩
  · intro h
    have h1 := (Json.Record.ofNodes_map_eq_ok (f := mk)).2 ⟨_, h.nonce, rfl⟩
    have h2 := Json.Record.ofNodes_seq_eq_ok.2 ⟨_, _, h1, h.sender, rfl⟩
    have h3 := Json.Record.ofNodes_seq_eq_ok.2 ⟨_, _, h2, h.receiver, rfl⟩
    have h4 := Json.Record.ofNodes_seq_eq_ok.2 ⟨_, _, h3, h.value, rfl⟩
    have h5 := Json.Record.ofNodes_seq_eq_ok.2 ⟨_, _, h4, h.gasPrice, rfl⟩
    have h6 := Json.Record.ofNodes_seq_eq_ok.2 ⟨_, _, h5, h.gasLimit, rfl⟩
    have h7 := Json.Record.ofNodes_seq_eq_ok.2 ⟨_, _, h6, h.data, rfl⟩
    have h8 := Json.Record.ofNodes_seq_eq_ok.2 ⟨_, _, h7, h.signature, rfl⟩
    have h9 := Json.Record.ofNodes_seq_eq_ok.2 ⟨_, _, h8, h.chainID, rfl⟩
    exact Json.Record.ofNodes_seq_eq_ok.2 ⟨_, _, h9, h.version, rfl⟩

end Inner

/-! ### How much lies inside -/

/-- The data of a transaction in JSON is no longer than the JSON. -/
theorem Inner.length_data_le {text : List UInt8} {inner : Inner}
    (h : Inner.ofText text = .ok inner) : (Utf8.bytes inner.data).length ≤ text.length := by
  obtain ⟨get, hget, fits⟩ := Json.Record.exists_of_ofText_eq_ok h
  have data := (Inner.ofNodes_record_eq_ok.1 hget).data
  exact Json.Record.length_le_of_textField data (fits "data")

/-- The number of bytes in the data field; none if it is not base64. -/
def dataSize (tx : Transaction) : Nat :=
  match Base64.ofText tx.data with
  | .ok bs => bs.length
  | .error _ => 0

theorem dataSize_of_ok (h : Base64.ofText tx.data = .ok bs) : tx.dataSize = bs.length := by
  rw [dataSize, h]

theorem dataSize_of_error {cause : Base64.Fault} (h : Base64.ofText tx.data = .error cause) :
    tx.dataSize = 0 := by
  rw [dataSize, h]

theorem dataSize_le (tx : Transaction) : tx.dataSize ≤ (Utf8.bytes tx.data).length := by
  rw [dataSize]
  split
  · next bs h => exact Base64.length_le_of_ofText h
  · exact Nat.zero_le _

theorem dataSize_le_of_unwrapPayload {payload : String}
    (h : unwrapPayload format payload = .ok inner) :
    2 * inner.dataSize ≤ payload.toList.length := by
  obtain ⟨text, fields, sender, receiver, htext, hfields, rfl⟩ := unwrapPayload_eq_ok h
  have digits := Hex.length_of_ofText htext
  have json := Inner.length_data_le hfields
  have size : dataSize ⟨sender, receiver, fields.data, Decimal.text fields.value⟩ ≤
      (Utf8.bytes fields.data).length := dataSize_le _
  omega

theorem dataSize_le_of_unwrapArguments {outerReceiver receiver data : String}
    (h : unwrapArguments format outerReceiver receiver data = .ok inner) :
    2 * inner.dataSize ≤ data.toList.length := by
  obtain ⟨bs, text, hbs, rfl⟩ := unwrapArguments_eq_ok h
  have size : dataSize ⟨outerReceiver, text, Base64.toText bs, "0"⟩ = bs.length :=
    dataSize_of_ok (Base64.ofText_toText bs)
  have digits := Hex.length_of_ofText hbs
  omega

/-- An argument of a call is shorter than the data field by the name of the call at least. -/
theorem length_add_length_lt {name : String} {args : List String} (arg : String)
    (htext : Utf8.decodeLossy bs = callText name args) (hmem : arg ∈ args) :
    name.toList.length + arg.toList.length < bs.length := by
  have text := Utf8.length_decodeLossy_le bs
  rw [htext, callText, List.map_cons] at text
  have shorter := Text.length_add_length_lt_joined '@' name.toList
    (List.mem_map_of_mem (f := String.toList) hmem)
  omega

/-- The transaction inside has less than half the data of the envelope. -/
theorem dataSize_lt_of_opens (h : Opens format tx inner) :
    2 * inner.dataSize + 9 < tx.dataSize := by
  obtain ⟨bs, hbs, ⟨payload, htext, hin⟩ | ⟨receiver, nonce, data, signature, htext, hin⟩⟩ :=
    opens_cases h
  · have inside := dataSize_le_of_unwrapPayload hin
    have around := length_add_length_lt payload htext (by simp)
    have name : "relayedTx".toList.length = 9 := rfl
    rw [dataSize_of_ok hbs]
    omega
  · have inside := dataSize_le_of_unwrapArguments hin
    have around := length_add_length_lt data htext (by simp)
    have name : "relayedTxV2".toList.length = 11 := rfl
    rw [dataSize_of_ok hbs]
    omega

end TxInspect.Transaction
