import TxInspect.Command.Run

/-!
# The command line

Takes the arguments, the source of the document and all that is known about the host from the
system, runs the command, and gives back what it prints and its exit code.
-/

namespace TxInspect.Command

/-- How the program is called. -/
def usage : String :=
  "Decode transaction data fields and smart-contract outcomes\n\n"
    ++ "Usage: txlens [OPTIONS] <COMMAND>\n\n"
    ++ "Commands:\n"
    ++ "  metadata [INPUT]   Decode a transaction's data field\n"
    ++ "  outcome [INPUT]    Recover the outcome of an executed transaction\n"
    ++ "  address <ADDRESS>  Convert an address between bech32 and hex\n"
    ++ "  help               Print this message\n\n"
    ++ "Options:\n"
    ++ "  -j, --json                   Output as JSON\n"
    ++ "      --no-color               Disable colored output\n"
    ++ "      --address-prefix <TEXT>  Bech32 prefix of account addresses\n"
    ++ "      --max-relay-depth <N>    Maximum number of nested relayed transactions to unwrap\n"
    ++ "      --log-level <FILTER>     Log filter for diagnostics on stderr\n"
    ++ "  -h, --help                   Print help\n"
    ++ "  -V, --version                Print version\n"

/-- The version of the program. -/
def version : String := "txlens 0.1.0\n"

/-- Everything that can be read from a stream. -/
partial def readAll (stream : IO.FS.Stream) (before : ByteArray) : IO ByteArray := do
  let block ← stream.read 65536
  if block.isEmpty then return before else readAll stream (before ++ block)

/-- Why a source cannot be read. -/
def reason : IO.Error → String
  | .inappropriateType _ _ _ => "Is a directory (os error 21)"
  | e => toString e

/-- Reads a source. -/
def fetch : Source → IO Content
  | .inline _ => return .missing
  | .stdin => do
    let stdin ← IO.getStdin
    if ← stdin.isTty then return .missing
    try return .bytes (← readAll stdin .empty).toList
    catch e => return .unreadable (reason e)
  | .file path => do
    try return .bytes (← IO.FS.readBinFile path).toList
    catch
      | .noFileOrDirectory _ _ _ => return .missing
      | e => return .unreadable (reason e)

/-- The variables that a run depends on. -/
def relevantVariables : List String :=
  [Setting.addressPrefix.variable, Setting.maxRelayDepth.variable, Setting.logLevel.variable,
    generalLogVariable, "CLICOLOR_FORCE", "NO_COLOR", "CLICOLOR"]

/-- Reads the environment. -/
def environment : IO Environment := do
  let values ← relevantVariables.mapM fun name => return (name, ← IO.getEnv name)
  return fun name => (values.lookup name).join

/-- The words for a fault of JSON. -/
def wording : Json.Wording
  | .truncated => "the text ends inside a value"
  | .malformed => "the text is not a JSON document"
  | .mismatch => "the value has another shape than the one wanted"

/-- Looks at the host. A terminal shows the same tables as a file. -/
def host : IO Host := do
  let terminal := if ← (← IO.getStdout).isTty then some ⟨Report.Table.draw⟩ else none
  return ⟨← environment, terminal, wording⟩

/-- Writes a log in plain lines without times. -/
def writtenLog (entries : List Log.Entry) : String :=
  String.join (entries.map fun e => e.line ++ "\n")

/-- Does what a command line asks for. -/
def perform (args : List String) : IO UInt32 := do
  let host ← host
  match Request.ofArguments host.env args with
  | .help => IO.print usage; return 0
  | .version => IO.print version; return 0
  | .refused => IO.eprint usage; return 2
  | .run invocation =>
    let content ← match invocation.source? with
      | some source => fetch source
      | none => pure .missing
    let ending := invocation.run host content
    IO.print ending.stdout
    IO.eprint (ending.stderr writtenLog)
    return ending.exitCode.toUInt32

end TxInspect.Command

def main (args : List String) : IO UInt32 :=
  TxInspect.Command.perform args
