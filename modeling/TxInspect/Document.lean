import TxInspect.Execution.Basic
import TxInspect.Text.Blank
import TxInspect.Transaction.Basic

/-!
# Documents

A document is a JSON text that states a transaction, or the answer of a gateway with the transaction
in it as `data.transaction` (`unwrapped`).
-/

namespace TxInspect.Document

/-- The value itself, or the transaction in it. -/
def unwrapped (document : Json) : Json :=
  ((document.member? "data").bind (Json.member? "transaction")).getD document

/-- Reads a record from a document. -/
def read {α : Type} (r : Json.Reader α) (text : String) : Except Json.Fault α := do
  let document ← Json.ofText (Utf8.bytes text)
  Json.orMismatch (r.ofValue (unwrapped document))

/-- Reads a transaction. -/
def transaction (text : String) : Except Json.Fault Transaction :=
  read Transaction.record.reader text

/-- Reads an executed transaction as it stands. -/
def executed (text : String) : Except Json.Fault ExecutedTransaction :=
  read ExecutedTransaction.record.reader text

/-- Reads an executed transaction, its receivers filled in. -/
def executedTransaction (text : String) : Except Json.Fault ExecutedTransaction :=
  (executed text).map ExecutedTransaction.withReceivers

/-- The text holds no document. -/
def isBlank (text : String) : Bool :=
  Text.isBlankText text.toList

end TxInspect.Document
