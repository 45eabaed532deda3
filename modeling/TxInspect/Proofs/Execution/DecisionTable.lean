import Mathlib.Tactic.Common
import TxInspect.Execution.Outcome
import TxInspect.Proofs.Execution.ReturnCodes
import TxInspect.Proofs.Results
import TxInspect.Proofs.Text.Pieces

/-!
# The outcome as a decision table

Seven rows (`table`) say when an outcome is told and which one it is: a row does not apply, or it
answers with an outcome or a fault.  Return data says a code, a message and values, or it is
malformed in one of three ways (`stated`).  Rows that look for one event of a kind follow one rule
(`countRule`): without such an event the row does not apply, several of them are a fault, and the
data of a single one is read.  The outcome of a transaction is the answer of the first row that
applies (`findWith_eq_table`).
-/

namespace TxInspect.Outcome

open Results

/-- What a row of the table says: nothing, or an outcome or a fault. -/
abbrev Row := Option (Except Fault Outcome)

/-- The row as the answer of a recognizer. -/
def Row.answer : Row → Except Fault (Option Outcome)
  | none => .ok none
  | some answer => answer.map some

/-- The answer of the first row that applies. -/
def firstAnswer : List Row → Except Fault (Option Outcome)
  | [] => .ok none
  | none :: rows => firstAnswer rows
  | some answer :: _ => answer.map some

/-! ### Return data -/

/-- What return data says, with a message beside it or without one.  Nothing stands before the first
`@`, the digits of a code stand behind it, and each further `@` begins a value.  Without a message,
the text of the code is the message. -/
def stated (data : String) (message : Option String) : Except Fault Outcome :=
  match data.toList.splitOn '@' with
  | [[]] => .error .emptyData
  | _ :: [] :: _ => .error .noReturnCode
  | [] :: digits :: values =>
    match Hex.decode (Utf8.encode digits) with
    | .ok bs => .ok
        { returnCode := .named (Utf8.lossy bs)
          returnMessage := message.getD (Utf8.lossy bs)
          values := values.map Utf8.encode }
    | .error _ => .error .unreadableData
  | _ => .error .unreadableData

/-- Return data is read as it says. -/
theorem ofReturnData_eq_stated (data : String) (message : Option String) :
    ofReturnData data message = stated data message := by
  by_cases empty : data = ""
  · subst empty
    rfl
  rw [ofReturnData, ReturnData.ofText, if_neg empty, stated, ← Text.pieces_eq_splitOn,
    ReturnData.separator]
  have whole := Text.joined_pieces '@' data.toList
  cases hpieces : Text.pieces '@' data.toList with
  | nil => exact absurd hpieces (Text.pieces_ne_nil '@' data.toList)
  | cons first rest =>
    cases rest with
    | nil =>
      cases first with
      | cons c cs => rfl
      | nil =>
        rw [hpieces] at whole
        exact absurd (String.toList_eq_nil_iff.1 whole.symm) empty
    | cons digits values =>
      cases digits with
      | nil => cases first <;> rfl
      | cons d ds =>
        cases first with
        | cons c cs => rfl
        | nil =>
          dsimp only
          rw [ReturnData.code?]
          cases Hex.decode (Utf8.encode (d :: ds)) with
          | error e => rfl
          | ok bs =>
            change Except.ok (Outcome.mk _ (message.getD (ReturnCode.ofText _).text) _) = _
            rw [ReturnCode.text_ofText, ReturnCode.ofText_eq_named]

example : stated "@6F6B@03@" none = .ok ⟨.ok, "ok", [[0x30, 0x33], []]⟩ := by decide

/-! ### Events of a kind -/

/-- A topic warns of too much gas. -/
def WarnsOfGas (e : Event) : Prop :=
  ∃ topic ∈ e.topics, Utf8.bytes "@too much gas" <+: topic

/-- The topic names the account: it is the raw address, or base64 of the raw address or of the text
of the address. -/
def NamesAccount (addresses : Addresses) (account : String) (topic : List UInt8) : Prop :=
  addresses account = some topic ∨
    ∃ bs, Base64.decode topic = .ok bs ∧ (addresses account = some bs ∨ bs = Utf8.bytes account)

/-- A topic names the account. -/
def IsAddressedTo (addresses : Addresses) (account : String) (e : Event) : Prop :=
  ∃ topic ∈ e.topics, NamesAccount addresses account topic

/-- The first topic is the text in hexadecimal. -/
def StartsWithHexOf (text : String) (e : Event) : Prop :=
  ∃ topic, e.topics.head? = some topic ∧ Hex.decode topic = .ok (Utf8.bytes text)

theorem warnsOfGas_iff (e : Event) : warnsOfGas e = true ↔ WarnsOfGas e := by
  simp [warnsOfGas, WarnsOfGas, Event.findTopic, List.find?_isSome, Event.tooMuchGas,
    List.isPrefixOf_iff_prefix]

theorem namesAccount_iff (addresses : Addresses) (account : String) (topic : List UInt8) :
    namesAccount account (addresses account) topic = true ↔
      NamesAccount addresses account topic := by
  rw [namesAccount, NamesAccount]
  cases Base64.decode topic <;> simp

theorem isAddressedTo_iff (addresses : Addresses) (account : String) (e : Event) :
    isAddressedTo addresses account e = true ↔ IsAddressedTo addresses account e := by
  simp [isAddressedTo, IsAddressedTo, Event.findTopic, List.find?_isSome, namesAccount_iff]

theorem startsWithHexOf_iff (text : String) (e : Event) :
    startsWithHexOf text e = true ↔ StartsWithHexOf text e := by
  rw [startsWithHexOf, StartsWithHexOf]
  cases e.topics.head? with
  | none => simp
  | some topic => cases h : Hex.decode topic <;> simp [h]

instance : DecidablePred WarnsOfGas := fun e =>
  decidable_of_iff _ (warnsOfGas_iff e)

instance (addresses : Addresses) (account : String) :
    DecidablePred (IsAddressedTo addresses account) := fun e =>
  decidable_of_iff _ (isAddressedTo_iff addresses account e)

instance (text : String) : DecidablePred (StartsWithHexOf text) := fun e =>
  decidable_of_iff _ (startsWithHexOf_iff text e)

/-! ### Rows -/

/-- What the events of a kind say: nothing without one, its data if there is one, and a fault that
names their identifier if there are more. -/
def countRule (identifier : String) (message : Event → Option String) : List Event → Row
  | [] => none
  | [e] => some (stated (Utf8.lossy e.data) (message e))
  | _ :: _ :: _ => some (.error (.ambiguous identifier))

/-- The events in the log of the transaction itself. -/
def logged (tx : ExecutedTransaction) : List Event :=
  (tx.logs.map Logs.events).getD []

/-- The data of the receipt; empty if there is none. -/
def receiptData (tx : ExecutedTransaction) : String :=
  match tx.receipt with
  | some receipt => receipt.data
  | none => ""

/-- The events in the log of a result. -/
def logEvents (r : ContractResult) : List Event :=
  (r.logs.map Logs.events).getD []

/-- The result has a nonce, and its data starts with `@`. -/
def IsCandidate (r : ContractResult) : Prop :=
  r.nonce ≠ 0 ∧ r.data.toList.head? = some '@'

instance : DecidablePred IsCandidate := fun r =>
  inferInstanceAs (Decidable (r.nonce ≠ 0 ∧ r.data.toList.head? = some '@'))

section Rows

variable (addresses : Addresses) (tx : ExecutedTransaction)

/-- Without results and events, only an amount has been moved. -/
def moveBalanceRow : Row :=
  if tx.results = [] ∧ logged tx = [] then some (.ok ⟨.none, "", []⟩) else none

/-- An invalid transaction has run out of funds, as its receipt says, if it says something. -/
def invalidRow : Row :=
  if tx.status = "invalid" ∧ receiptData tx ≠ "" then
    some (.ok ⟨.outOfFunds, receiptData tx, []⟩)
  else none

/-- The first result that carries return data says how the call ended, with its own message if it
has one. -/
def resultRow : Row :=
  (tx.results.find? fun r => decide (IsCandidate r)).map fun r =>
    stated r.data (if r.returnMessage = "" then none else some r.returnMessage)

/-- The only event about an error has the message in its last topic. -/
def signalErrorRow : Row :=
  countRule "signalError" (fun e => e.topics.getLast?.map Utf8.lossy)
    ((logged tx).filter fun e => e.identifier = "signalError")

/-- So has the only log that warns of too much gas. -/
def tooMuchGasRow : Row :=
  countRule "writeLog" (fun e => e.topics.getLast?.map Utf8.lossy)
    ((logged tx).filter fun e => e.identifier = "writeLog" ∧ WarnsOfGas e)

/-- The only log that is addressed to the sender, if there is a sender, has no message. -/
def writeLogRow : Row :=
  if tx.sender = "" then none
  else countRule "writeLog" (fun _ => none)
    ((logged tx).filter fun e => e.identifier = "writeLog" ∧ IsAddressedTo addresses tx.sender e)

/-- Of the events of the first result, the only log from the sender for the first receiver decides,
and no other result counts. -/
def fallbackRow : Row :=
  match tx.receivers, tx.results with
  | receiver :: _, result :: _ =>
    countRule "writeLog" (fun _ => none) ((logEvents result).filter fun e =>
      e.identifier = "writeLog" ∧ e.address = tx.sender ∧ StartsWithHexOf receiver e)
  | _, _ => none

/-- The rows in order. -/
def table : List Row :=
  [moveBalanceRow tx, invalidRow tx, resultRow tx, signalErrorRow tx, tooMuchGasRow tx,
    writeLogRow addresses tx, fallbackRow tx]

end Rows

/-! ### Recognizers answer with their rows -/

variable {addresses : Addresses} {tx : ExecutedTransaction}

theorem ofSingle_eq_answer (identifier : String) (p : Event → Bool)
    (message : Event → Option String) (events : List Event) :
    ofSingle identifier p message events = Row.answer (countRule identifier message
      (events.filter fun e => e.identifier = identifier && p e)) := by
  rw [ofSingle, Event.single?]
  -- The events of the kind decide alone.
  generalize events.filter (fun e => e.identifier = identifier && p e) = found
  match found with
  | [] => rfl
  | [e] =>
    rw [countRule, ← ofReturnData_eq_stated]
    rfl
  | _ :: _ :: _ => rfl

/-- The same for a property that the events are asked for in another way. -/
theorem ofSingle_eq_answer_of_iff {identifier : String} {p : Event → Bool} {P : Event → Prop}
    [DecidablePred P] (h : ∀ e, p e = true ↔ P e) (message : Event → Option String)
    (events : List Event) :
    ofSingle identifier p message events = Row.answer (countRule identifier message
      (events.filter fun e => e.identifier = identifier ∧ P e)) := by
  rw [ofSingle_eq_answer]
  congr 3
  funext e
  rw [Bool.eq_iff_iff]
  simp [h]

theorem answer_ite_some {c : Prop} [Decidable c] (outcome : Outcome) :
    Row.answer (if c then some (.ok outcome) else none) =
      .ok (if c then some outcome else none) := by
  split_ifs <;> rfl

theorem moveBalance_eq_answer (tx : ExecutedTransaction) :
    .ok (moveBalance tx) = (moveBalanceRow tx).answer :=
  (answer_ite_some _).symm

theorem invalid_eq_answer (tx : ExecutedTransaction) :
    .ok (invalid tx) = (invalidRow tx).answer := by
  rw [invalidRow, answer_ite_some, invalid, receiptData]
  cases tx.receipt <;> simp

theorem hasReturnData_eq (r : ContractResult) : hasReturnData r = decide (IsCandidate r) := by
  rw [Bool.eq_iff_iff, decide_eq_true_iff]
  simp [hasReturnData, IsCandidate, ReturnData.separator]

theorem ofResults_eq_answer (tx : ExecutedTransaction) :
    ofResults tx.results = (resultRow tx).answer := by
  rw [ofResults, resultRow, show hasReturnData = fun r => decide (IsCandidate r) from
    funext hasReturnData_eq]
  cases tx.results.find? fun r => decide (IsCandidate r) with
  | none => rfl
  | some r =>
    rw [Option.map_some, ← ofReturnData_eq_stated]
    rfl

theorem signalError_eq_answer (tx : ExecutedTransaction) :
    ofSingle Event.signalError (fun _ => true) Event.lastTopic? tx.events =
      (signalErrorRow tx).answer := by
  rw [ofSingle_eq_answer, signalErrorRow]
  simp only [Bool.and_true]
  rfl

theorem tooMuchGas_eq_answer (tx : ExecutedTransaction) :
    ofSingle Event.writeLog warnsOfGas Event.lastTopic? tx.events = (tooMuchGasRow tx).answer :=
  ofSingle_eq_answer_of_iff warnsOfGas_iff Event.lastTopic? tx.events

theorem writeLogToSender_eq_answer (addresses : Addresses) (tx : ExecutedTransaction) :
    writeLogToSender addresses tx = (writeLogRow addresses tx).answer := by
  rw [writeLogToSender, writeLogRow]
  split_ifs
  · rfl
  · exact ofSingle_eq_answer_of_iff (isAddressedTo_iff addresses tx.sender) _ tx.events

theorem result_fallback {receiver : String} {receivers : List String} {r : ContractResult}
    {rs : List ContractResult} (hreceivers : tx.receivers = receiver :: receivers)
    (hresults : tx.results = r :: rs) :
    (fallback tx).result = ofSingle Event.writeLog
      (fun e => e.address = tx.sender && startsWithHexOf receiver e) (fun _ => none)
      (logEvents r) := by
  simp only [fallback, hreceivers, hresults, Log.Account.result_bind]
  change (ofSingle _ _ _ (logEvents r) >>= _) = _
  cases ofSingle Event.writeLog (fun e => e.address = tx.sender && startsWithHexOf receiver e)
    (fun _ => none) (logEvents r) with
  | error e => rfl
  | ok answer => cases answer <;> rfl

theorem fallback_eq_answer (tx : ExecutedTransaction) :
    (fallback tx).result = (fallbackRow tx).answer := by
  cases hreceivers : tx.receivers with
  | nil => simp only [fallback, fallbackRow, hreceivers]; rfl
  | cons receiver receivers =>
    cases hresults : tx.results with
    | nil => simp only [fallback, fallbackRow, hreceivers, hresults]; rfl
    | cons r rs =>
      have kind : ∀ e : Event,
          (decide (e.address = tx.sender) && startsWithHexOf receiver e) = true ↔
            e.address = tx.sender ∧ StartsWithHexOf receiver e := by
        simp [startsWithHexOf_iff]
      rw [result_fallback hreceivers hresults, ofSingle_eq_answer_of_iff kind, fallbackRow,
        hreceivers, hresults]
      rfl

/-- The row of a recognizer. -/
def Recognizer.row (addresses : Addresses) (tx : ExecutedTransaction) : Recognizer → Row
  | .moveBalance => moveBalanceRow tx
  | .invalid => invalidRow tx
  | .result => resultRow tx
  | .signalError => signalErrorRow tx
  | .tooMuchGas => tooMuchGasRow tx
  | .writeLogToSender => writeLogRow addresses tx
  | .fallback => fallbackRow tx

/-- A recognizer answers what its row says. -/
theorem result_runWith (addresses : Addresses) (tx : ExecutedTransaction) (r : Recognizer) :
    (r.runWith addresses tx).result = (r.row addresses tx).answer := by
  cases r with
  | moveBalance => exact moveBalance_eq_answer tx
  | invalid => exact invalid_eq_answer tx
  | result => exact ofResults_eq_answer tx
  | signalError => exact signalError_eq_answer tx
  | tooMuchGas => exact tooMuchGas_eq_answer tx
  | writeLogToSender => exact writeLogToSender_eq_answer addresses tx
  | fallback => exact fallback_eq_answer tx

/-! ### All rows -/

/-- Recognizers that are asked in order answer as the first of their rows that applies. -/
theorem result_findAmong (addresses : Addresses) (tx : ExecutedTransaction)
    (rs : List Recognizer) :
    (findAmong addresses tx rs).result = firstAnswer (rs.map (Recognizer.row addresses tx)) := by
  induction rs with
  | nil => rfl
  | cons r rs ih =>
    rw [findAmong, Log.Account.result_bind, result_runWith, List.map_cons]
    cases r.row addresses tx with
    | none =>
      rw [firstAnswer, ← ih]
      rfl
    | some answer => cases answer <;> rfl

/-- The outcome of a transaction is the answer of the first row of the table that applies, whatever
is known about addresses.  For some settings, the addresses are those that their format reads. -/
theorem findWith_eq_table (tx : ExecutedTransaction) :
    (∀ addresses, (findWith addresses tx).result = firstAnswer (table addresses tx)) ∧
    ∀ settings : Settings, (find settings tx).result =
      firstAnswer (table (fun text => (settings.format.decode text).toOption) tx) := by
  have tabled : ∀ addresses, (findWith addresses tx).result = firstAnswer (table addresses tx) :=
    fun addresses => result_findAmong addresses tx Recognizer.all
  exact ⟨tabled, fun settings => tabled settings.format.addresses⟩

end TxInspect.Outcome
