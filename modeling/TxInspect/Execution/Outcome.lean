import TxInspect.Address
import TxInspect.Execution.Events
import TxInspect.Execution.ReturnData
import TxInspect.Log.Account
import TxInspect.Log.Entry
import TxInspect.Settings

/-!
# Outcomes

How an executed transaction ended (`Outcome`). Recognizers are asked in order (`Recognizer.all`),
and the first one that knows the outcome decides (`Outcome.find`). A recognizer that finds several
events to choose from, or return data that it cannot read, fails, and nobody is asked after it.
All that they want to know about addresses is which bytes a text stands for (`Addresses`).
-/

namespace TxInspect

/-- The bytes of the address that a text states, if it states one. -/
abbrev Addresses := String → Option (List UInt8)

/-- The addresses that are written in a format. -/
def Address.Format.addresses (f : Address.Format) : Addresses :=
  fun text => (f.decode text).toOption

/-- How a transaction ended. -/
structure Outcome where
  returnCode : ReturnCode
  returnMessage : String
  values : List (List UInt8)
deriving DecidableEq, Repr

namespace Outcome

/-- The ways of recognizing an outcome. -/
inductive Recognizer where
  | moveBalance
  | invalid
  | result
  | signalError
  | tooMuchGas
  | writeLogToSender
  | fallback
deriving DecidableEq, Repr

/-- What is noted while an outcome is looked for. -/
inductive Notice where
  | declined (recognizer : Recognizer)
  /-- The first result has no event for the fallback. -/
  | noEvent (resultHash : String)
  | recognized (recognizer : Recognizer) (hash : String) (code : ReturnCode)
  | undetermined (hash : String)
deriving DecidableEq, Repr

/-- An account of looking for an outcome. -/
abbrev Search := Log.Account Notice Fault

/-- The outcome in a contract's return data. The message is the text of the code if there is
none. -/
def ofReturnData (data : String) (message : Option String) : Except Fault Outcome := do
  let parts ← ReturnData.ofText data
  return ⟨parts.code, message.getD parts.code.text, parts.values⟩

/-- The outcome in the data of an event. -/
def ofEvent (e : Event) (message : Option String) : Except Fault Outcome :=
  ofReturnData (Utf8.lossy e.data) message

/-- The outcome in the only event of a kind, with a message taken from it. -/
def ofSingle (identifier : String) (p : Event → Bool) (message : Event → Option String)
    (events : List Event) : Except Fault (Option Outcome) := do
  match ← Event.single? identifier p events with
  | some e => (ofEvent e (message e)).map some
  | none => return none

/-- A transaction without results and events has only moved an amount. -/
def moveBalance (tx : ExecutedTransaction) : Option Outcome :=
  if tx.results = [] ∧ tx.events = [] then some ⟨.none, "", []⟩ else none

/-- An invalid transaction says in its receipt what is wrong. -/
def invalid (tx : ExecutedTransaction) : Option Outcome :=
  match tx.receipt with
  | some receipt =>
    if tx.status = "invalid" ∧ receipt.data ≠ "" then some ⟨.outOfFunds, receipt.data, []⟩ else none
  | none => none

/-- The result carries return data. -/
def hasReturnData (r : ContractResult) : Bool :=
  r.nonce != 0 && r.data.toList.head? == some ReturnData.separator

/-- The text, if it is not empty. -/
def nonempty? (s : String) : Option String :=
  if s = "" then none else some s

/-- The outcome in the first result that carries return data. -/
def ofResults (results : List ContractResult) : Except Fault (Option Outcome) :=
  match results.find? hasReturnData with
  | some r => (ofReturnData r.data (nonempty? r.returnMessage)).map some
  | none => .ok none

/-- The event warns of too much gas. -/
def warnsOfGas (e : Event) : Bool :=
  (e.findTopic (Utf8.bytes Event.tooMuchGas).isPrefixOf).isSome

/-- The topic names an account: by its raw address, or in base64 by its raw address or the text of
its address. -/
def namesAccount (text : String) (raw : Option (List UInt8)) (topic : List UInt8) : Bool :=
  raw == some topic ||
    match Base64.decode topic with
    | .ok bs => raw == some bs || bs == Utf8.bytes text
    | .error _ => false

/-- One of the topics names the account. -/
def isAddressedTo (addresses : Addresses) (account : String) (e : Event) : Bool :=
  (e.findTopic (namesAccount account (addresses account))).isSome

/-- The first topic is the text in hexadecimal. -/
def startsWithHexOf (text : String) (e : Event) : Bool :=
  match e.topics.head? with
  | some topic =>
    match Hex.decode topic with
    | .ok bs => bs == Utf8.bytes text
    | .error _ => false
  | none => false

/-- The outcome in the event that is addressed to the sender. -/
def writeLogToSender (addresses : Addresses) (tx : ExecutedTransaction) :
    Except Fault (Option Outcome) :=
  if tx.sender = "" then .ok none
  else ofSingle Event.writeLog (isAddressedTo addresses tx.sender) (fun _ => none) tx.events

/-- The outcome in the log of the first result; no other result is looked at. -/
def fallback (tx : ExecutedTransaction) : Search (Option Outcome) :=
  match tx.receivers, tx.results with
  | receiver :: _, result :: _ => do
    let events := (result.logs.map Logs.events).getD []
    let answer ← .ofResult (ofSingle Event.writeLog
      (fun e => e.address = tx.sender && startsWithHexOf receiver e) (fun _ => none) events)
    if answer.isNone then .note (.noEvent result.hash)
    return answer
  | _, _ => return none

/-- What a recognizer knows about a transaction, given the addresses. -/
def Recognizer.runWith (addresses : Addresses) (tx : ExecutedTransaction) :
    Recognizer → Search (Option Outcome)
  | .moveBalance => return Outcome.moveBalance tx
  | .invalid => return Outcome.invalid tx
  | .result => .ofResult (ofResults tx.results)
  | .signalError => .ofResult
    (ofSingle Event.signalError (fun _ => true) Event.lastTopic? tx.events)
  | .tooMuchGas => .ofResult (ofSingle Event.writeLog warnsOfGas Event.lastTopic? tx.events)
  | .writeLogToSender => .ofResult (Outcome.writeLogToSender addresses tx)
  | .fallback => Outcome.fallback tx

/-- What a recognizer knows about a transaction. -/
def Recognizer.run (format : Address.Format) (tx : ExecutedTransaction) :
    Recognizer → Search (Option Outcome) :=
  runWith format.addresses tx

/-- The recognizers in the order in which they are asked. -/
def Recognizer.all : List Recognizer :=
  [.moveBalance, .invalid, .result, .signalError, .tooMuchGas, .writeLogToSender, .fallback]

/-- Asks recognizers in order. -/
def findAmong (addresses : Addresses) (tx : ExecutedTransaction) :
    List Recognizer → Search (Option Outcome)
  | [] => do
    .note (.undetermined tx.hash)
    return none
  | r :: rs => do
    match ← r.runWith addresses tx with
    | some outcome =>
      .note (.recognized r tx.hash outcome.returnCode)
      return some outcome
    | none =>
      .note (.declined r)
      findAmong addresses tx rs

/-- The outcome of a transaction, if it can be told from what is known about addresses. -/
def findWith (addresses : Addresses) (tx : ExecutedTransaction) : Search (Option Outcome) :=
  findAmong addresses tx Recognizer.all

/-- The outcome of a transaction, if it can be told. -/
def find (settings : Settings) (tx : ExecutedTransaction) : Search (Option Outcome) :=
  findWith settings.format.addresses tx

/-- The name of a recognizer. -/
def Recognizer.name : Recognizer → String
  | .moveBalance => "simple move balance"
  | .invalid => "invalid transaction"
  | .result => "easily found result"
  | .signalError => "signal error"
  | .tooMuchGas => "too much gas"
  | .writeLogToSender => "write log to sender"
  | .fallback => "fallback"

/-- The part of the program that the entries of these notices come from. -/
def logTarget : String := "txlens::outcome::parser"

/-- The notice as a log entry. -/
def Notice.entry : Notice → Log.Entry
  | .declined r => ⟨.trace, logTarget, "declined", [("recognizer", .text r.name)]⟩
  | .noEvent hash =>
    ⟨.trace, logTarget, "no matching event, giving up", [("result", .shown hash)]⟩
  | .recognized r hash code =>
    ⟨.debug, logTarget, "result outcome recognized",
      [("recognizer", .text r.name), ("hash", .shown hash), ("return_code", .shown code.text)]⟩
  | .undetermined hash =>
    ⟨.debug, logTarget, "outcome could not be determined", [("hash", .shown hash)]⟩

end Outcome

end TxInspect
