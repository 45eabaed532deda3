import TxInspect.Number.Decimal
import TxInspect.Settings

/-!
# Command lines

A command line names a command and its argument, with options in front of the command or behind it
(`Request.ofArguments`). An option behind the command counts more than the same one in front of it,
which counts more than the environment. A command line that makes no sense is refused; help and the
version are given as soon as they are asked for.
-/

namespace TxInspect.Command

/-- What is to be done. -/
inductive Action where
  /-- Describe a transaction. -/
  | metadata (input : Option String)
  /-- Tell the outcome of an executed transaction. -/
  | outcome (input : Option String)
  /-- Show both forms of an address. -/
  | address (text : String)
deriving DecidableEq, Repr

/-- An action with everything that it depends on. -/
structure Invocation where
  action : Action
  json : Bool
  noColor : Bool
  addressPrefix : String
  maxRelayDepth : Nat
  logFilter : String
deriving DecidableEq, Repr

/-- What a command line asks for. -/
inductive Request where
  | run (i : Invocation)
  | help
  | version
  | refused
deriving DecidableEq, Repr

/-- The values of environment variables. -/
abbrev Environment := String → Option String

/-- The options that take a value. -/
inductive Setting where
  | addressPrefix
  | maxRelayDepth
  | logLevel
deriving DecidableEq, Repr

/-- The options that take no value. -/
inductive Switch where
  | json
  | noColor
deriving DecidableEq, Repr

/-- Options that have been given. -/
structure Given where
  json : Bool
  noColor : Bool
  addressPrefix : Option String
  maxRelayDepth : Option Nat
  logLevel : Option String
deriving DecidableEq, Repr

/-- Why a command line is not read to its end. -/
inductive Stop where
  | help
  | version
  | refused
deriving DecidableEq, Repr

/-- The depth that a text states: a word of 64 bits in decimal digits. -/
def depth? (s : String) : Option Nat :=
  (Decimal.amount? s).filter (· < Word.limit 64)

namespace Given

/-- No options. -/
def none : Given := ⟨false, false, .none, .none, .none⟩

/-- One more switch, which must be new. -/
def turn (g : Given) : Switch → Except Stop Given
  | .json => if g.json then .error .refused else .ok { g with json := true }
  | .noColor => if g.noColor then .error .refused else .ok { g with noColor := true }

/-- One more setting, which must be new and have a proper value. -/
def set (g : Given) (value : String) : Setting → Except Stop Given
  | .addressPrefix =>
    if g.addressPrefix.isSome then .error .refused
    else .ok { g with addressPrefix := some value }
  | .maxRelayDepth =>
    match g.maxRelayDepth, depth? value with
    | .none, some depth => .ok { g with maxRelayDepth := some depth }
    | _, _ => .error .refused
  | .logLevel =>
    if g.logLevel.isSome then .error .refused else .ok { g with logLevel := some value }

end Given

/-- A setting whose argument has been read. -/
inductive Held where
  /-- Its value has to come next. -/
  | awaited (setting : Setting)
  /-- Its value has come in an argument of its own, and nobody has looked at it. -/
  | taken (setting : Setting) (value : String)
deriving DecidableEq, Repr

/-- Options in front of the command or behind it. A value in an argument of its own is looked at
when the next option comes, or at the end of the command line. -/
structure Level where
  given : Given
  held : Option Held
deriving DecidableEq, Repr

namespace Level

/-- A level without options. -/
def empty : Level := ⟨.none, none⟩

/-- The options with the one that is held. -/
def settle (l : Level) : Except Stop Given :=
  match l.held with
  | none => .ok l.given
  | some (.awaited _) => .error .refused
  | some (.taken s value) => l.given.set value s

end Level

/-- More options in short form, a letter each. -/
def Given.short (g : Given) (isFront : Bool) : List Char → Except Stop Given
  | [] => .ok g
  | 'j' :: cs => g.turn .json >>= fun g => g.short isFront cs
  | 'h' :: _ => .error .help
  | 'V' :: _ => .error (if isFront then .version else .refused)
  | _ :: _ => .error .refused

namespace Level

/-- Takes a switch that stands in an argument with the given value. -/
def turn (g : Given) (value : Option String) (s : Switch) : Except Stop Level :=
  if value.isSome then .error .refused else (g.turn s).map (⟨·, none⟩)

/-- Takes a setting that stands in an argument with the given value, or else waits for it. -/
def set (g : Given) (value : Option String) (s : Setting) : Except Stop Level :=
  match value with
  | some value => (g.set value s).map (⟨·, none⟩)
  | none => .ok ⟨g, some (.awaited s)⟩

/-- Takes a long option, with the value after its equals sign. -/
def long (l : Level) (isFront : Bool) (name : String) (value : Option String) :
    Except Stop Level := do
  let g ← l.settle
  match name with
  | "json" => turn g value .json
  | "no-color" => turn g value .noColor
  | "address-prefix" => set g value .addressPrefix
  | "max-relay-depth" => set g value .maxRelayDepth
  | "log-level" => set g value .logLevel
  | "help" => .error (if value.isSome then .refused else .help)
  | "version" => .error (if value.isSome || !isFront then .refused else .version)
  | _ => .error .refused

/-- Takes short options. -/
def short (l : Level) (isFront : Bool) (letters : List Char) : Except Stop Level :=
  l.settle >>= fun g => (g.short isFront letters).map (⟨·, none⟩)

end Level

/-- An argument by its form. -/
inductive Form where
  /-- The sign after which everything is a word. -/
  | words
  | long (name : String) (value : Option String)
  | short (letters : List Char)
  | word
deriving DecidableEq, Repr

/-- A long option: its name, and its value after an equals sign. -/
def longForm (cs : List Char) : Form :=
  let name := String.ofList (cs.takeWhile (· ≠ '='))
  match cs.dropWhile (· ≠ '=') with
  | [] => .long name none
  | _ :: value => .long name (some (String.ofList value))

/-- The form of an argument. A lone `-` is a word. -/
def form (arg : String) : Form :=
  match arg.toList with
  | ['-', '-'] => .words
  | '-' :: '-' :: cs => longForm cs
  | ['-'] => .word
  | '-' :: cs => .short cs
  | _ => .word

/-- The names of the commands. -/
inductive Name where
  | metadata
  | outcome
  | address
deriving DecidableEq, Repr

/-- The command with a name. -/
def name? : String → Option Name
  | "metadata" => some .metadata
  | "outcome" => some .outcome
  | "address" => some .address
  | _ => none

/-- How far a command line has been read. -/
inductive Reading where
  /-- In front of the command. -/
  | front (level : Level)
  /-- Behind the command: the options in front of it, its argument, and whether only words follow.
  -/
  | behind (front : Level) (name : Name) (level : Level) (word : Option String) (onlyWords : Bool)
  /-- After the command `help`, and whether another command has been named after it. -/
  | help (isNamed : Bool)
deriving DecidableEq, Repr

/-- Takes an argument where the value of a setting is expected. -/
def takeValue (level : Level) (s : Setting) (arg : String) : Except Stop Level :=
  match form arg with
  | .word => .ok { level with held := some (.taken s arg) }
  | _ => .error .refused

/-- Takes an argument in front of the command. -/
def stepFront (level : Level) (arg : String) : Except Stop Reading :=
  match level.held with
  | some (.awaited s) => (takeValue level s arg).map .front
  | _ =>
    match form arg with
    | .words => .error .refused
    | .long name value => (level.long true name value).map .front
    | .short letters => (level.short true letters).map .front
    | .word =>
      if arg = "help" then .ok (.help false)
      else match name? arg with
        | some name => .ok (.behind level name .empty none false)
        | none => .error .refused

/-- Takes the argument of a command, which must be the only one. -/
def stepWord (front : Level) (name : Name) (level : Level) (word : Option String)
    (onlyWords : Bool) (arg : String) : Except Stop Reading :=
  match word with
  | none => .ok (.behind front name level (some arg) onlyWords)
  | some _ => .error .refused

/-- Takes an argument behind the command. -/
def stepBehind (front : Level) (name : Name) (level : Level) (word : Option String) (arg : String) :
    Except Stop Reading :=
  match level.held with
  | some (.awaited s) => (takeValue level s arg).map (.behind front name · word false)
  | _ =>
    match form arg with
    | .words => .ok (.behind front name level word true)
    | .long option value => (level.long false option value).map (.behind front name · word false)
    | .short letters => (level.short false letters).map (.behind front name · word false)
    | .word => stepWord front name level word false arg

/-- Takes an argument. -/
def step (r : Reading) (arg : String) : Except Stop Reading :=
  match r with
  | .front level => stepFront level arg
  | .behind front name level word true => stepWord front name level word true arg
  | .behind front name level word false => stepBehind front name level word arg
  | .help true => .error .refused
  | .help false =>
    if arg = "help" ∨ (name? arg).isSome then .ok (.help true) else .error .refused

/-- The environment variables that settings are taken from. -/
def Setting.variable : Setting → String
  | .addressPrefix => "TXLENS_ADDRESS_PREFIX"
  | .maxRelayDepth => "TXLENS_MAX_RELAY_DEPTH"
  | .logLevel => "TXLENS_LOG"

/-- The variable with the log filter for those who set no other one. -/
def generalLogVariable : String := "RUST_LOG"

/-- The log filter for those who set none. -/
def standardLogFilter : String := "warn"

/-- The relay depth. The environment has to state a proper one, unless it is given twice on the
command line. -/
def relayDepth (env : Environment) (front behind : Given) : Except Stop Nat :=
  match behind.maxRelayDepth, front.maxRelayDepth with
  | some depth, some _ => .ok depth
  | given, given' =>
    match env Setting.maxRelayDepth.variable with
    | none => .ok ((given <|> given').getD Settings.standard.maxRelayDepth)
    | some text =>
      match depth? text with
      | some depth => .ok ((given <|> given').getD depth)
      | none => .error .refused

/-- The action of a command with an argument. -/
def action : Name → Option String → Except Stop Action
  | .metadata, word => .ok (.metadata word)
  | .outcome, word => .ok (.outcome word)
  | .address, some word => .ok (.address word)
  | .address, none => .error .refused

/-- What has been asked for at the end of a command line. -/
def finish (env : Environment) : Reading → Except Stop Invocation
  | .front _ => .error .refused
  | .help _ => .error .help
  | .behind front name level word _ => do
    let behind ← level.settle
    let front ← front.settle
    let action ← action name word
    let maxRelayDepth ← relayDepth env front behind
    let addressPrefix :=
      (behind.addressPrefix <|> front.addressPrefix <|> env Setting.addressPrefix.variable).getD
        Settings.standard.addressPrefix
    let logFilter :=
      (behind.logLevel <|> front.logLevel <|> env Setting.logLevel.variable
        <|> env generalLogVariable).getD standardLogFilter
    return {
      action
      json := behind.json || front.json
      noColor := behind.noColor || front.noColor
      addressPrefix
      maxRelayDepth
      logFilter }

/-- What a command line asks for. -/
def Request.ofArguments (env : Environment) (args : List String) : Request :=
  match args.foldlM step (.front .empty) >>= finish env with
  | .ok invocation => .run invocation
  | .error .help => .help
  | .error .version => .version
  | .error .refused => .refused

end TxInspect.Command
