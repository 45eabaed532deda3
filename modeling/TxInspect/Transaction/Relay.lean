import TxInspect.Json.Reader
import TxInspect.Transaction.Basic
import TxInspect.Transaction.Fault
import TxInspect.Transaction.Metadata

/-!
# Relayed transactions

A relayer pays for someone else's transaction and sends it in an envelope, a call to `relayedTx`
with the transaction in JSON, or to `relayedTxV2` with its parts as arguments. `unwrap?` takes the
transaction out of the envelope.
-/

namespace TxInspect.Transaction

/-- The transaction in an envelope, as its JSON has it: addresses and data in base64. -/
structure Inner where
  nonce : Nat
  sender : String
  receiver : String
  value : Nat
  gasPrice : Nat
  gasLimit : Nat
  data : String
  signature : String
  chainID : String
  version : Nat
deriving DecidableEq, Repr

namespace Inner

/-- How deep a value may be nested in the JSON of an envelope. -/
def valueDepth : Nat := Json.maxDepth - 1

/-- An amount: an integer of 64 bits, or a text in decimal digits. -/
def amount : Json.Reader Nat :=
  .whole valueDepth fun
    | .number n => n.unsigned?.filter (· < Word.limit 64)
    | .text s => Decimal.amount? s
    | _ => none

/-- The JSON of an envelope: sender and receiver have to be there. -/
def record : Json.Record Inner :=
  Inner.mk
    <$> .field "nonce" (.unsigned (Word.limit 64)) (some 0)
    <*> .field "sender" .text none
    <*> .field "receiver" .text none
    <*> .field "value" amount (some 0)
    <*> .field "gasPrice" (.unsigned (Word.limit 64)) (some 0)
    <*> .field "gasLimit" (.unsigned (Word.limit 64)) (some 0)
    <*> .field "data" (.nullable .text "") (some "")
    <*> .field "signature" .text (some "")
    <*> .field "chainID" .text (some "")
    <*> .field "version" (.unsigned (Word.limit 32)) (some 0)

/-- Reads the JSON of an envelope. -/
def ofText (text : List UInt8) : Except Json.Fault Inner :=
  record.reader.ofText text

end Inner

/-- The bytes of an argument. -/
def hexBytes (argument : Argument) (arg : String) : Except Fault (List UInt8) :=
  (Hex.ofText arg).mapError (.badHex argument)

/-- The address given in base64, as bech32. -/
def base64Address (format : Address.Format) (text : String) : Except Fault String := do
  let bs ← (Base64.ofText text).mapError .badData
  (format.encode bs).mapError .address

/-- The transaction in an envelope with JSON. -/
def unwrapPayload (format : Address.Format) (payload : String) : Except Fault Transaction := do
  let text ← hexBytes .relayedPayload payload
  let inner ← (Inner.ofText text).mapError .badPayload
  let sender ← base64Address format inner.sender
  let receiver ← base64Address format inner.receiver
  return { sender, receiver, data := inner.data, value := Decimal.text inner.value }

/-- The transaction in an envelope with arguments. The receiver of the envelope is its sender. -/
def unwrapArguments (format : Address.Format) (outerReceiver receiver data : String) :
    Except Fault Transaction := do
  let bs ← hexBytes .relayedData data
  let receiver ← (format.encodeHex receiver).mapError .address
  return { sender := outerReceiver, receiver, data := Base64.toText bs, value := "0" }

/-- The transaction in an envelope, or nothing if the call is no envelope. -/
def unwrap? (format : Address.Format) (m : Metadata) : Except Fault (Option Transaction) :=
  match m.call? with
  | some ("relayedTx", [payload]) => (unwrapPayload format payload).map some
  | some ("relayedTxV2", [receiver, _, data, _]) =>
    (unwrapArguments format m.receiver receiver data).map some
  | _ => .ok none

end TxInspect.Transaction
