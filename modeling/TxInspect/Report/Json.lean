import TxInspect.Execution.Outcome
import TxInspect.Json.Printer
import TxInspect.Transaction.Metadata

/-!
# Reports as JSON

The description of a transaction, an outcome or the forms of an address as a JSON value, for
programs to read. Amounts are texts in decimal digits. What does not apply is left out.
-/

namespace TxInspect.Report

/-- A member for a text, or none if it is empty. -/
def textMember (name text : String) : List (String × Json) :=
  if text = "" then [] else [(name, .text text)]

/-- A token. -/
def tokenJson (t : Token) : Json :=
  .object (textMember "token" t.token ++ textMember "collection" t.collection
    ++ textMember "identifier" t.identifier)

/-- A transfer. -/
def transferJson (t : TokenTransfer) : Json :=
  .object [("value", .text (Decimal.text t.value)), ("properties", tokenJson t.token)]

/-- A list of texts. -/
def textsJson (texts : List String) : Json :=
  .array (texts.map .text)

/-- The description of a transaction. -/
def metadataJson (m : Metadata) : Json :=
  .object ([("sender", .text m.sender), ("receiver", .text m.receiver),
      ("value", .text (Decimal.text m.value))]
    ++ (m.functionName.map fun name => ("functionName", Json.text name)).toList
    ++ (m.functionArgs.map fun args => ("functionArgs", textsJson args)).toList
    ++ [("transfers", .array (m.transfers.map transferJson))])

/-- An outcome; `null` if there is none. -/
def outcomeJson : Option Outcome → Json
  | none => .null
  | some o => .object [("returnCode", .text o.returnCode.text),
      ("returnMessage", .text o.returnMessage), ("values", textsJson (o.values.map Utf8.lossy))]

/-- The forms of an address. -/
def formsJson (f : Address.Forms) : Json :=
  .object [("bech32", .text f.bech32), ("hex", .text f.hex), ("isContract", .bool f.isContract)]

end TxInspect.Report
