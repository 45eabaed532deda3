import TxInspect.Command.Arguments
import TxInspect.Command.Source
import TxInspect.Log.Filter
import TxInspect.Report
import TxInspect.Transaction.Decoder

/-!
# Running a command

A command reads a document from its source (`Invocation.source?`), looks into it, and ends with an
exit code, the report on the standard output, and the log and what went wrong on the standard error
(`Invocation.run`). Whether texts are colored depends on the command and on the host that it runs
on (`Host`).
-/

namespace TxInspect.Command

/-- A terminal shows tables in its own way: in its width and with colors. -/
structure Terminal where
  draw : Report.Table → String

/-- What a command runs on. -/
structure Host where
  /-- The values of environment variables. -/
  env : Environment
  /-- The terminal that the standard output goes to, if it goes to one. -/
  terminal : Option Terminal
  /-- The words for the fault of JSON that the run meets, if it meets one. -/
  wording : Json.Wording

namespace Host

/-- How tables are drawn. -/
def draw (host : Host) : Report.Table → String :=
  match host.terminal with
  | some terminal => terminal.draw
  | none => Report.Table.draw

/-- Colors are asked for even where there is no terminal. -/
def forcesColor (host : Host) : Bool :=
  match host.env "CLICOLOR_FORCE" with
  | some value => value ≠ "0"
  | none => false

/-- There is a terminal, and no variable asks for texts without colors. -/
def allowsColor (host : Host) : Bool :=
  host.terminal.isSome && (host.env "NO_COLOR").isNone && host.env "CLICOLOR" != some "0"

end Host

/-- How a run ends: with a report on the standard output or with a complaint on the standard error,
and with the entries of its log. -/
structure Ending where
  exitCode : Nat
  stdout : String
  log : List Log.Entry
  complaint : String
deriving DecidableEq, Repr

/-- What is on the standard error, given how a log is written. All entries are written before the
run ends. -/
def Ending.stderr (e : Ending) (write : List Log.Entry → String) : String :=
  write e.log ++ e.complaint

namespace Invocation

/-- The settings of the decoders. -/
def settings (i : Invocation) : Settings :=
  { Settings.standard with addressPrefix := i.addressPrefix, maxRelayDepth := i.maxRelayDepth }

/-- The source of the document that is looked into. -/
def source? (i : Invocation) : Option Source :=
  match i.action with
  | .metadata input | .outcome input => some (.ofArgument input)
  | .address _ => none

/-- The texts are colored. -/
def hasColor (i : Invocation) (host : Host) : Bool :=
  !i.noColor && (host.forcesColor || host.allowsColor)

/-- The account of describing the transaction in a document. -/
def describe (i : Invocation) (document : String) : Log.Account Log.Entry Failure Report :=
  match Document.transaction document with
  | .error cause => .ofResult (.error (.document cause))
  | .ok tx =>
    let account := Transaction.describe i.settings tx
    ⟨account.events.map Transaction.Event.entry,
      match account.result with
      | .ok m => .ok (.metadata m)
      | .error cause => .error (.transaction cause)⟩

/-- The account of telling the outcome of the transaction in a document. -/
def tellOutcome (i : Invocation) (document : String) : Log.Account Log.Entry Failure Report :=
  match Document.executedTransaction document with
  | .error cause => .ofResult (.error (.document cause))
  | .ok tx =>
    let account := Outcome.find i.settings tx
    ⟨account.events.map Outcome.Notice.entry,
      match account.result with
      | .ok o => .ok (.outcome o)
      | .error cause => .error (.outcome cause)⟩

/-- The account of a command, given what has been found at its source. -/
def account (i : Invocation) (content : Content) : Log.Account Log.Entry Failure Report :=
  match i.action with
  | .metadata input => do
    let document ← .ofResult ((Source.ofArgument input).document content)
    i.describe document
  | .outcome input => do
    let document ← .ofResult ((Source.ofArgument input).document content)
    i.tellOutcome document
  | .address text =>
    match i.settings.format.resolve text with
    | .ok forms => .ofResult (.ok (.address forms))
    | .error cause => .ofResult (.error (.address cause))

/-- The report as it is printed: without white space at its end, and with a line break. -/
def printed (i : Invocation) (host : Host) (report : Report) : Except Failure String :=
  match report.renderWith? host.draw ⟨i.json, i.hasColor host⟩ with
  | some text => .ok (String.ofList (Text.trimEnd text.toList ++ ['\n']))
  | none => .error .layout

/-- The entries of the log. -/
def log (i : Invocation) (content : Content) : List Log.Entry :=
  (Log.Filter.ofText i.logFilter).shown (i.account content).events

/-- Runs a command, given what has been found at its source. -/
def run (i : Invocation) (host : Host) (content : Content) : Ending :=
  match (i.account content).result >>= i.printed host with
  | .ok text => ⟨0, text, i.log content, ""⟩
  | .error failure =>
    ⟨failure.exitCode, "", i.log content, (failure.report host.wording).render (i.hasColor host)⟩

end Invocation

end TxInspect.Command
