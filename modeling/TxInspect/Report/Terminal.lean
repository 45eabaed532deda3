import TxInspect.Execution.Outcome
import TxInspect.Report.Arguments
import TxInspect.Report.Grouping
import TxInspect.Report.Styled
import TxInspect.Transaction.Metadata

/-!
# Reports for a terminal

The description of a transaction, an outcome or the forms of an address as styled text, for people
to read. Tables are drawn without styles, in a way that is given (`draw`).
-/

namespace TxInspect.Report

/-- A heading on a line of its own. -/
def headingLine (title : String) : Styled :=
  .ofStyle .heading title ++ .ofText "\n"

/-- A heading with a count on a line of its own. -/
def countedHeading (title : String) (count : Nat) : Styled :=
  .ofStyle .heading title ++ .ofText (" (" ++ Decimal.text count ++ ")\n")

/-- A line with a dim label in front of a value. -/
def labelled (label : String) (value : Styled) : Styled :=
  .ofText "  " ++ .ofStyle .dim label ++ .ofText " " ++ value ++ .ofText "\n"

/-- A line with a bold name, a colon and a value. -/
def named (name : String) (value : Styled) : Styled :=
  .ofText "  " ++ .ofStyle .bold name ++ .ofText ": " ++ value ++ .ofText "\n"

/-- The arguments under their heading, or nothing if there are none. -/
def argumentSection? (draw : Table → String) (args : List String) : Option Styled :=
  if args = [] then some []
  else do
    let table ← argumentTable? args
    return countedHeading "Arguments" args.length ++ .ofText (draw table)

/-- The call of a transaction. -/
def callSection? (draw : Table → String) (m : Metadata) : Option Styled :=
  match m.call? with
  | none => some []
  | some (function, args) => do
    let arguments ← argumentSection? draw args
    return headingLine "Call" ++ labelled "Function:" (.ofStyle .green function) ++ arguments
      ++ .ofText "\n"

/-- The name under which a token is shown. -/
def tokenName (t : Token) : String :=
  if t.identifier = "" then t.token else t.identifier

/-- The cells for a transfer. -/
def transferRow (index : Nat) (t : TokenTransfer) : List Cell :=
  [.ofText (Decimal.text index), .ofText (tokenName t.token), .ofText (grouped t.value)]

/-- The transfers of a transaction. -/
def transferSection (draw : Table → String) (transfers : List TokenTransfer) : Styled :=
  if transfers = [] then []
  else countedHeading "Transfers" transfers.length ++ .ofText (draw
    ⟨["#", "Token", "Value"].map .ofText, transfers.zipIdx.map fun (t, i) => transferRow i t⟩)

/-- The description of a transaction; none if an argument cannot be shortened. -/
def ofMetadata? (draw : Table → String) (m : Metadata) : Option Styled := do
  let call ← callSection? draw m
  return headingLine "Transaction" ++ labelled "Sender:" (.ofText m.sender)
    ++ labelled "Receiver:" (.ofText m.receiver)
    ++ labelled "Value:" (.ofStyle .yellow (grouped m.value)) ++ .ofText "\n"
    ++ call ++ transferSection draw m.transfers

/-- The text for a return code. -/
def codeText (code : ReturnCode) : String :=
  if code.text = "" then "(none)" else code.text

/-- The values that a contract has returned. -/
def valueSection (values : List (List UInt8)) : Styled :=
  if values = [] then []
  else .ofText "\n" ++ countedHeading "Values" values.length
    ++ (values.zipIdx.flatMap fun (bs, i) =>
      labelled (Decimal.text i ++ ":") (.ofText (Utf8.lossy bs)))

/-- An outcome. -/
def ofOutcome : Option Outcome → Styled
  | none => .ofStyle .yellow "Outcome could not be determined" ++ .ofText "\n"
  | some o =>
    headingLine "Outcome"
      ++ labelled "Return code:"
        (.ofStyle (if o.returnCode.isSuccess then .green else .red) (codeText o.returnCode))
      ++ labelled "Message:" (.ofText o.returnMessage) ++ valueSection o.values

/-- The forms of an address. -/
def ofForms (f : Address.Forms) : Styled :=
  headingLine "Address Details" ++ named "Address" (.ofText f.bech32)
    ++ named "Hex" (.ofStyle .dim f.hex)
    ++ named "Type" (.ofStyle .green (if f.isContract then "smart contract" else "account"))

end TxInspect.Report
