import TxInspect.Json.Reader

/-!
# Transactions

The four parts of a transaction that its description depends on, and how they are read from JSON.
-/

namespace TxInspect

/-- A transaction whose data field is to be described. -/
structure Transaction where
  sender : String
  receiver : String
  /-- The data field in base64; empty if there is none. -/
  data : String
  /-- The amount in decimal digits; empty for nothing. -/
  value : String
deriving DecidableEq, Repr

/-- A transaction in JSON: every field may be missing, and `data` and `value` may be `null`. -/
def Transaction.record : Json.Record Transaction :=
  Transaction.mk
    <$> .field "sender" .text (some "")
    <*> .field "receiver" .text (some "")
    <*> .field "data" (.nullable .text "") (some "")
    <*> .field "value" (.nullable .text "") (some "")

end TxInspect
