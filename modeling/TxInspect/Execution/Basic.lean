import TxInspect.Codec.Base64
import TxInspect.Json.Reader

/-!
# Executed transactions

What a node reports about a transaction that has been executed: its results, its log events and its
receipt, and how all of it is read from JSON. Every field may be missing or `null`, the nonce of a
result excepted, which may only be missing. Topics and data of an event are base64.
-/

namespace TxInspect

/-- A log event. -/
structure Event where
  identifier : String
  address : String
  topics : List (List UInt8)
  data : List UInt8
deriving DecidableEq, Repr

/-- The log of a transaction or of a result. -/
structure Logs where
  address : String
  events : List Event
deriving DecidableEq, Repr

/-- The receipt of a transaction that has paid fees without being executed. -/
structure Receipt where
  data : String
deriving DecidableEq, Repr

/-- A result of a contract call. -/
structure ContractResult where
  hash : String
  /-- Zero if the result carries no return data. -/
  nonce : Nat
  data : String
  returnMessage : String
  logs : Option Logs
deriving DecidableEq, Repr

/-- A transaction that has been executed. -/
structure ExecutedTransaction where
  hash : String
  sender : String
  receiver : String
  receivers : List String
  status : String
  receipt : Option Receipt
  results : List ContractResult
  logs : Option Logs
deriving DecidableEq, Repr

/-- A text that may be missing or `null`, and is empty then. -/
def textField (name : String) : Json.Record String :=
  .field name (.nullable .text "") (some "")

/-- A list that may be missing or `null`, and is empty then. -/
def listField {α : Type} (name : String) (r : Json.Reader α) : Json.Record (List α) :=
  .field name (.nullable (.list r) []) (some [])

/-- A value that may be missing or `null`. -/
def optionalField {α : Type} (name : String) (r : Json.Reader α) : Json.Record (Option α) :=
  .field name r.optional (some none)

/-- The bytes of a base64 text, if it is one. -/
def base64? (s : String) : Option (List UInt8) :=
  (Base64.ofText s).toOption

/-- A log event in JSON. A `null` among the topics is an empty topic. -/
def Event.record : Json.Record Event :=
  Event.mk
    <$> textField "identifier"
    <*> textField "address"
    <*> .field "topics"
      ((Json.Reader.nullable (.list (.nullable .text "")) []).refine (·.mapM base64?)) (some [])
    <*> .field "data" ((Json.Reader.nullable .text "").refine base64?) (some [])

/-- A log in JSON. -/
def Logs.record : Json.Record Logs :=
  Logs.mk <$> textField "address" <*> listField "events" Event.record.reader

/-- A receipt in JSON. -/
def Receipt.record : Json.Record Receipt :=
  Receipt.mk <$> textField "data"

/-- A result in JSON. -/
def ContractResult.record : Json.Record ContractResult :=
  ContractResult.mk
    <$> textField "hash"
    <*> .field "nonce" (.unsigned (Word.limit 64)) (some 0)
    <*> textField "data"
    <*> textField "returnMessage"
    <*> optionalField "logs" Logs.record.reader

namespace ExecutedTransaction

/-- An executed transaction in JSON. -/
def record : Json.Record ExecutedTransaction :=
  ExecutedTransaction.mk
    <$> textField "hash"
    <*> textField "sender"
    <*> textField "receiver"
    <*> listField "receivers" .text
    <*> textField "status"
    <*> optionalField "receipt" Receipt.record.reader
    <*> listField "smartContractResults" ContractResult.record.reader
    <*> optionalField "logs" Logs.record.reader

/-- The transaction with its receiver as the only one of its receivers, if there are none. -/
def withReceivers (tx : ExecutedTransaction) : ExecutedTransaction :=
  if tx.receivers = [] ∧ tx.receiver ≠ "" then { tx with receivers := [tx.receiver] } else tx

/-- The log events of the transaction itself. -/
def events (tx : ExecutedTransaction) : List Event :=
  (tx.logs.map Logs.events).getD []

end ExecutedTransaction

end TxInspect
