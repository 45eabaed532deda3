import TxInspect.Address
import TxInspect.Execution.Fault
import TxInspect.Report.Styled
import TxInspect.Transaction.Fault

/-!
# Failures of a run

Why a run has nothing to report (`Failure`), with the text and the exit code of each failure. The
report of a failure is its text (`Failure.report`), and one more line for each cause whose text is
not part of what has been said before (`Failure.causes`).
-/

namespace TxInspect

/-- Why there is nothing to report. -/
inductive Failure where
  | noInput
  | fileNotFound (path : String)
  /-- A file, or else the standard input, cannot be read. -/
  | unreadable (path : Option String) (reason : String)
  | document (cause : Json.Fault)
  | address (cause : Address.Fault)
  | transaction (cause : Transaction.Fault)
  | outcome (cause : Outcome.Fault)
  /-- A report cannot be laid out. -/
  | layout
deriving DecidableEq, Repr

namespace Failure

/-- The failure in words. -/
def message (wording : Json.Wording) : Failure → String
  | .noInput =>
    "No input provided. Use: txlens <command> <file>, inline JSON, or pipe JSON to stdin"
  | .fileNotFound path => "File not found: " ++ path
  | .unreadable none reason => "IO error: " ++ reason
  | .unreadable (some path) reason => "IO error reading " ++ path ++ ": " ++ reason
  | .document cause => "Invalid transaction JSON: " ++ wording cause
  | .address cause => "Invalid address: " ++ cause.message
  | .transaction cause => "Failed to decode transaction metadata: " ++ cause.message wording
  | .outcome cause => "Failed to parse result outcome: " ++ cause.message
  | .layout => "Format error: an argument cannot be shortened"

/-- The texts of the causes under a failure, the nearest first. -/
def causes (wording : Json.Wording) : Failure → List String
  | .unreadable _ reason => [reason]
  | .document cause => [wording cause]
  | .address cause => cause.message :: cause.cause?.toList
  | .transaction cause => cause.message wording :: cause.causes wording
  | .outcome cause => [cause.message]
  | _ => []

/-- The exit code: 1 if a transaction makes no sense, 2 if an input is no transaction or address, 3
if there is no input, and 5 if there is no layout. -/
def exitCode : Failure → Nat
  | .transaction _ | .outcome _ => 1
  | .document _ | .address _ => 2
  | .noInput | .fileNotFound _ | .unreadable _ _ => 3
  | .layout => 5

/-- The first text is part of the second. -/
def isWithin (part : List Char) : List Char → Bool
  | [] => part.isEmpty
  | c :: cs => part.isPrefixOf (c :: cs) || isWithin part cs

/-- The causes that say more than what has been said before each of them. -/
def newCauses (said : String) : List String → List String
  | [] => []
  | cause :: causes =>
    if isWithin cause.toList said.toList then newCauses cause causes
    else cause :: newCauses cause causes

/-- The line for a cause. -/
def causeLine (cause : String) : Report.Styled :=
  .ofText "  " ++ .ofStyle .dim "caused by:" ++ .ofText (" " ++ cause ++ "\n")

/-- The failure as styled lines. -/
def report (f : Failure) (wording : Json.Wording) : Report.Styled :=
  let message := f.message wording
  let causes : Report.Styled := (newCauses message (f.causes wording)).flatMap causeLine
  .ofStyle .red "error" ++ .ofText (": " ++ message ++ "\n") ++ causes

end Failure

end TxInspect
