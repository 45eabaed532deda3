import TxInspect.Log.Account
import TxInspect.Log.Entry
import TxInspect.Settings
import TxInspect.Text.Pieces
import TxInspect.Transaction.Relay
import TxInspect.Transaction.Transfers

/-!
# Describing transactions

The data field of a transaction is a function name and arguments in hexadecimal, parted by `@`.
`describe` reads this call, opens the envelopes around it, and looks for a token transfer in the
call of the innermost transaction. It gives an account of what it did (`Event`).
-/

namespace TxInspect.Transaction

/-- What is noted while a transaction is described. -/
inductive Event where
  /-- The data field is no call. -/
  | noCall
  /-- An envelope has been opened: the `depth`-th one, and who sends to whom in it. -/
  | unwrapped (depth : Nat) (sender receiver : String)
  | transfer (kind : TransferKind) (count : Nat)
  | noTransfer (function : Option String)
deriving DecidableEq, Repr

/-- An account of describing a transaction. -/
abbrev Description := Log.Account Event Fault

/-- The amount of a transaction; no text means nothing. -/
def readValue (text : String) : Except Fault Nat :=
  if text = "" then .ok 0
  else match Decimal.amount? text with
    | some n => .ok n
    | none => .error .badValue

/-- The sign between a function name and the arguments. -/
def separator : Char := '@'

/-- The function name and the arguments in a text. -/
def splitCall (text : List Char) : String × List String :=
  match (Text.pieces separator text).map String.ofList with
  | [] => ("", [])
  | name :: args => (name, args)

/-- The transaction by its own data field alone. -/
def describeOuter (tx : Transaction) : Description Metadata := do
  let value ← .ofResult (readValue tx.value)
  let m := Metadata.plain tx.sender tx.receiver value
  if tx.data = "" then return m
  let bs ← .ofResult ((Base64.ofText tx.data).mapError .badData)
  let (name, args) := splitCall (Utf8.decodeLossy bs)
  if args.all Hex.isText then return m.withCall name args
  .note .noCall
  return m

/-- The innermost transaction, when `opened` envelopes have been opened and `left` more may be. -/
def describeInner (format : Address.Format) (opened : Nat) :
    Nat → Transaction → Description Metadata
  | 0, tx => do
    let m ← describeOuter tx
    match ← .ofResult (unwrap? format m) with
    | none => return m
    | some _ => .ofResult (.error (.tooDeep opened))
  | left + 1, tx => do
    let m ← describeOuter tx
    match ← .ofResult (unwrap? format m) with
    | none => return m
    | some inner =>
      .note (.unwrapped (opened + 1) inner.sender inner.receiver)
      describeInner format (opened + 1) left inner

/-- The first of some kinds of transfers that the transaction is. -/
def findTransfer (format : Address.Format) (m : Metadata) :
    List TransferKind → Except Fault (Option (TransferKind × Metadata))
  | [] => .ok none
  | kind :: kinds => do
    match ← recognized? kind format m with
    | some moved => return some (kind, moved)
    | none => findTransfer format m kinds

/-- The kinds of transfers in the order in which they are looked for. -/
def TransferKind.all : List TransferKind := [.fungible, .nonFungible, .multiple]

/-- Describes a transaction, opening at most `maxDepth` envelopes. -/
def describeWith (format : Address.Format) (maxDepth : Nat) (tx : Transaction) :
    Description Metadata := do
  let m ← describeInner format 0 maxDepth tx
  match ← .ofResult (findTransfer format m TransferKind.all) with
  | some (kind, moved) =>
    .note (.transfer kind moved.transfers.length)
    return moved
  | none =>
    .note (.noTransfer m.functionName)
    return m

/-- Describes a transaction. -/
def describe (settings : Settings) (tx : Transaction) : Description Metadata :=
  describeWith settings.format settings.maxRelayDepth tx

/-- The part of the program that the entries of these events come from. -/
def logTarget : String := "txlens::decode::data_field"

/-- The event as a log entry. -/
def Event.entry : Event → Log.Entry
  | .noCall =>
    ⟨.trace, logTarget, "data field arguments are not hex, treating as opaque data", []⟩
  | .unwrapped depth sender receiver =>
    ⟨.debug, logTarget, "unwrapped relayed transaction",
      [("depth", .shown (Decimal.text depth)), ("sender", .shown sender),
        ("receiver", .shown receiver)]⟩
  | .transfer kind count =>
    ⟨.debug, logTarget, "decoded token transfer",
      [("recognizer", .text kind.function), ("transfers", .shown (Decimal.text count))]⟩
  | .noTransfer function =>
    ⟨.trace, logTarget, "no transfer recognized",
      [("function", .shown (match function with
        | some name => "Some(" ++ Text.quoted name ++ ")"
        | none => "None"))]⟩

end TxInspect.Transaction
