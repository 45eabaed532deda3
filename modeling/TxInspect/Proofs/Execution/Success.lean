import Mathlib.Tactic.Common
import TxInspect.Proofs.Execution.Agreement
import TxInspect.Proofs.Execution.ReturnCodes

/-!
# Successes and failures

The first recognizer whose row applies decides (`decider?`), and most recognizers read their outcome
from return data (`slicedData?`, `findWith_cases`).  An invalid transaction with a receipt has run
out of funds, unless it has neither results nor events and so counts as a plain move of an amount
(`result_findWith_of_invalid`).  The code of an outcome tells a success from a failure
(`returnCode_of_findWith`), and its values are texts (`isText_of_findWith`).
-/

namespace TxInspect.Outcome

open Results

/-! ### The row that decides -/

theorem firstAnswer_map_eq_some {rs : List Recognizer} {row : Recognizer → Row} {o : Outcome}
    (h : firstAnswer (rs.map row) = .ok (some o)) :
    ∃ r, rs.find? (fun r => (row r).isSome) = some r ∧ row r = some (.ok o) := by
  induction rs with
  | nil => cases h
  | cons r rs ih =>
    rw [List.map_cons] at h
    cases hr : row r with
    | none =>
      rw [hr, firstAnswer] at h
      obtain ⟨decider, found, answer⟩ := ih h
      refine ⟨decider, ?_, answer⟩
      rw [List.find?_cons, hr]
      exact found
    | some answer =>
      rw [hr, firstAnswer] at h
      obtain ⟨_, rfl, ho⟩ := map_eq_ok_iff.1 h
      cases ho
      refine ⟨r, ?_, hr⟩
      rw [List.find?_cons, hr]
      rfl

section Tables

variable (addresses : Addresses) (tx : ExecutedTransaction)

/-- The first recognizer whose row applies. -/
def decider? : Option Recognizer :=
  Recognizer.all.find? fun r => (r.row addresses tx).isSome

/-- The transaction has neither results nor events. -/
def MovesBalance : Prop :=
  tx.results = [] ∧ tx.events = []

instance : Decidable (MovesBalance tx) :=
  inferInstanceAs (Decidable (_ ∧ _))

/-- The events that a recognizer chooses from. -/
def Recognizer.events : Recognizer → List Event
  | .moveBalance | .invalid | .result => []
  | .signalError => withIdentifier "signalError" tx.events
  | .tooMuchGas => (withIdentifier "writeLog" tx.events).filter fun e => WarnsOfGas e
  | .writeLogToSender =>
    if tx.sender = "" then []
    else (withIdentifier "writeLog" tx.events).filter fun e => IsAddressedTo addresses tx.sender e
  | .fallback =>
    match tx.receivers.head? with
    | some receiver => (withIdentifier "writeLog" (firstLog tx)).filter fun e =>
      e.address = tx.sender ∧ StartsWithHexOf receiver e
    | none => []

/-- The return data that a recognizer reads: that of the first result that carries some, or of the
first event that it chooses from. -/
def Recognizer.data? (r : Recognizer) : Option String :=
  match r with
  | .result => (firstCandidate? tx).map ContractResult.data
  | r => (r.events addresses tx).head?.map fun e => Utf8.lossy e.data

/-- The return data that the outcome is read from, if the recognizer that decides reads some. -/
def slicedData? : Option String :=
  (decider? addresses tx).bind (Recognizer.data? addresses tx)

end Tables

variable {addresses : Addresses} {tx : ExecutedTransaction} {o : Outcome}

/-- An outcome is the answer of the row that decides. -/
theorem decider?_of_findWith (h : (findWith addresses tx).result = .ok (some o)) :
    ∃ r, decider? addresses tx = some r ∧ r.row addresses tx = some (.ok o) := by
  rw [findWith, result_findAmong] at h
  exact firstAnswer_map_eq_some h

/-! ### Transactions that have not been executed -/

theorem moveBalanceRow_of_movesBalance (h : MovesBalance tx) :
    moveBalanceRow tx = some (.ok ⟨.none, "", []⟩) :=
  if_pos h

theorem moveBalanceRow_eq_none (h : ¬ MovesBalance tx) : moveBalanceRow tx = none :=
  if_neg h

theorem result_findWith_of_movesBalance (h : MovesBalance tx) (addresses : Addresses) :
    (findWith addresses tx).result = .ok (some ⟨.none, "", []⟩) := by
  rw [findWith, result_findAmong, Recognizer.all, List.map_cons, Recognizer.row,
    moveBalanceRow_of_movesBalance h]
  rfl

theorem decider?_ne_moveBalance (h : ¬ MovesBalance tx) :
    decider? addresses tx ≠ some .moveBalance := by
  intro found
  have applies := List.find?_some found
  rw [Recognizer.row, moveBalanceRow_eq_none h] at applies
  cases applies

/-- An invalid transaction with a receipt has run out of funds, as its receipt says, if it has a
result or an event.  Otherwise it counts as a plain move of an amount. -/
theorem result_findWith_of_invalid (addresses : Addresses) (tx : ExecutedTransaction)
    (status : tx.status = "invalid") (receipt : receiptData tx ≠ "") :
    (findWith addresses tx).result = .ok (some
      (if tx.results = [] ∧ tx.events = [] then ⟨.none, "", []⟩
      else ⟨.outOfFunds, receiptData tx, []⟩)) := by
  split_ifs with h
  · exact result_findWith_of_movesBalance h addresses
  · rw [findWith, result_findAmong, Recognizer.all, List.map_cons, List.map_cons, Recognizer.row,
      moveBalanceRow_eq_none h, firstAnswer, Recognizer.row, invalidRow, if_pos ⟨status, receipt⟩]
    rfl

/-- A transaction that could not be paid for and has not been executed. -/
def unpaid : ExecutedTransaction where
  hash := "a1b2"
  sender := "alice"
  receiver := "bob"
  receivers := ["bob"]
  status := "invalid"
  receipt := some ⟨"insufficient funds"⟩
  results := []
  logs := none

/-- A result without return data is enough to make the receipt count. -/
theorem result_findWith_unpaid :
    (findWith (fun _ => none) { unpaid with results := [⟨"c3", 0, "@6f6b", "", none⟩] }).result =
      .ok (some ⟨.outOfFunds, "insufficient funds", []⟩) :=
  result_findWith_of_invalid (fun _ => none)
    { unpaid with results := [⟨"c3", 0, "@6f6b", "", none⟩] } rfl (by decide)

/-- The receipt does not count in all invalid transactions: one without results and events is
reported as a plain move of an amount. -/
theorem not_forall_invalid_outOfFunds :
    ¬ ∀ (addresses : Addresses) (tx : ExecutedTransaction),
      tx.status = "invalid" → receiptData tx ≠ "" →
        (findWith addresses tx).result = .ok (some ⟨.outOfFunds, receiptData tx, []⟩) := by
  intro h
  have claimed := h (fun _ => none) unpaid rfl (by decide)
  have moved : (findWith (fun _ => none) unpaid).result = .ok (some ⟨.none, "", []⟩) := rfl
  rw [moved] at claimed
  cases claimed

/-! ### Codes and values of outcomes -/

theorem ofReturnData_eq_ok {data : String} {message : Option String}
    (h : ofReturnData data message = .ok o) :
    ∃ parts, ReturnData.ofText data = .ok parts ∧ o.returnCode = parts.code ∧
      o.values = parts.values := by
  obtain ⟨parts, hparts, h⟩ := bind_eq_ok_iff.1 h
  cases h
  exact ⟨parts, hparts, rfl, rfl⟩

theorem countRule_eq_some {identifier : String} {message : Event → Option String}
    {events : List Event} (h : countRule identifier message events = some (.ok o)) :
    ∃ data message, (events.head?.map fun e => Utf8.lossy e.data) = some data ∧
      ofReturnData data message = .ok o := by
  match events, h with
  | [e], h =>
    refine ⟨_, message e, rfl, ?_⟩
    rw [ofReturnData_eq_stated]
    exact Option.some.inj h
  | _ :: _ :: _, h => cases Option.some.inj h

/-- What a recognizer answers that reads return data. -/
theorem data?_of_row {r : Recognizer} (hmove : r ≠ .moveBalance) (hinvalid : r ≠ .invalid)
    (h : r.row addresses tx = some (.ok o)) :
    ∃ data message, r.data? addresses tx = some data ∧ ofReturnData data message = .ok o := by
  cases r with
  | moveBalance => exact absurd rfl hmove
  | invalid => exact absurd rfl hinvalid
  | result =>
    obtain ⟨r, found, answer⟩ := Option.map_eq_some_iff.1 h
    rw [← ofReturnData_eq_stated] at answer
    exact ⟨r.data, _, Option.map_eq_some_iff.2 ⟨r, found, rfl⟩, answer⟩
  | signalError => exact countRule_eq_some h
  | tooMuchGas =>
    rw [Recognizer.row, tooMuchGasRow, filter_withIdentifier] at h
    exact countRule_eq_some h
  | writeLogToSender =>
    rw [Recognizer.row, writeLogRow, filter_withIdentifier] at h
    split_ifs at h with nobody
    obtain ⟨data, message, hdata, answer⟩ := countRule_eq_some h
    refine ⟨data, message, ?_, answer⟩
    rw [← hdata]
    simp only [Recognizer.data?, Recognizer.events, if_neg nobody]
    rfl
  | fallback =>
    rw [Recognizer.row, fallbackRow_eq] at h
    obtain ⟨receiver, hreceiver, h⟩ := Option.bind_eq_some_iff.1 h
    rw [filter_withIdentifier] at h
    obtain ⟨data, message, hdata, answer⟩ := countRule_eq_some h
    refine ⟨data, message, ?_, answer⟩
    rw [← hdata]
    simp only [Recognizer.data?, Recognizer.events, hreceiver]

/-- An outcome is a plain move of an amount, what a receipt says, or what return data says. -/
theorem findWith_cases (h : (findWith addresses tx).result = .ok (some o)) :
    (MovesBalance tx ∧ o = ⟨.none, "", []⟩) ∨
    (¬ MovesBalance tx ∧ slicedData? addresses tx = none ∧ o = ⟨.outOfFunds, receiptData tx, []⟩) ∨
    (¬ MovesBalance tx ∧ ∃ data message, slicedData? addresses tx = some data ∧
      ofReturnData data message = .ok o) := by
  by_cases moves : MovesBalance tx
  · rw [result_findWith_of_movesBalance moves] at h
    cases h
    exact Or.inl ⟨moves, rfl⟩
  right
  obtain ⟨r, found, row⟩ := decider?_of_findWith h
  have sliced : slicedData? addresses tx = r.data? addresses tx := by
    rw [slicedData?, found, Option.bind_some]
  rw [sliced]
  have hmove : r ≠ .moveBalance := by
    rintro rfl
    exact decider?_ne_moveBalance moves found
  by_cases hinvalid : r = .invalid
  · left
    subst hinvalid
    rw [Recognizer.row, invalidRow] at row
    split_ifs at row
    cases row
    exact ⟨moves, rfl, rfl⟩
  · right
    exact ⟨moves, data?_of_row hmove hinvalid row⟩

/-- The values of an outcome are texts. -/
theorem isText_of_findWith (h : (findWith addresses tx).result = .ok (some o)) :
    ∀ v ∈ o.values, Utf8.IsText v := by
  obtain ⟨-, rfl⟩ | ⟨-, -, rfl⟩ | ⟨-, data, message, -, answer⟩ := findWith_cases h
  · exact fun v hv => absurd hv List.not_mem_nil
  · exact fun v hv => absurd hv List.not_mem_nil
  · obtain ⟨parts, hparts, -, values⟩ := ofReturnData_eq_ok answer
    rw [values]
    exact ReturnData.isText_of_ofText hparts

/-- Looking a code up by its text gives back the text.  The code of an outcome is none exactly if
the transaction has neither results nor events, it is the code of its text, and it is a success
exactly if it is none or the return data that the outcome is read from states the bytes of `ok`. -/
theorem returnCode_of_findWith :
    (∀ s, (ReturnCode.ofText s).text = s) ∧
    ∀ addresses tx o, (findWith addresses tx).result = .ok (some o) →
      (o.returnCode = .none ↔ tx.results = [] ∧ tx.events = []) ∧
      ReturnCode.ofText o.returnCode.text = o.returnCode ∧
      (o.returnCode.isSuccess = true ↔ (tx.results = [] ∧ tx.events = []) ∨
        ∃ data, slicedData? addresses tx = some data ∧
          ReturnData.codeBytes? data = some (Utf8.bytes "ok")) := by
  refine ⟨ReturnCode.text_ofText, fun addresses tx o h => ?_⟩
  obtain ⟨moves, rfl⟩ | ⟨moves, none, rfl⟩ | ⟨moves, data, message, hdata, answer⟩ :=
    findWith_cases h
  · exact ⟨iff_of_true rfl moves, rfl, iff_of_true rfl (Or.inl moves)⟩
  · refine ⟨iff_of_false ReturnCode.noConfusion moves, rfl, iff_of_false Bool.false_ne_true ?_⟩
    rintro (both | ⟨data, hdata, -⟩)
    · exact moves both
    · rw [none] at hdata
      cases hdata
  · obtain ⟨parts, hparts, code, -⟩ := ofReturnData_eq_ok answer
    rw [hdata, code]
    refine ⟨iff_of_false (ReturnData.code_ne_none hparts) moves,
      ReturnData.ofText_text_code hparts, ?_⟩
    rw [ReturnData.isSuccess_of_ofText hparts]
    constructor
    · exact fun ok => Or.inr ⟨data, rfl, ok⟩
    · rintro (both | ⟨_, ⟨⟩, ok⟩)
      · exact absurd both moves
      · exact ok

/-- A transaction whose only result returns a value. -/
def answered : ExecutedTransaction :=
  { unpaid with status := "success", receipt := none, results := [⟨"c3", 1, "@6f6b@03", "", none⟩] }

theorem returnCode_answered :
    (findWith (fun _ => none) answered).result = .ok (some ⟨.ok, "ok", [[0x30, 0x33]]⟩) ∧
      ∃ data, slicedData? (fun _ => none) answered = some data ∧
        ReturnData.codeBytes? data = some (Utf8.bytes "ok") := by
  have found : (findWith (fun _ => none) answered).result =
      .ok (some ⟨.ok, "ok", [[0x30, 0x33]]⟩) := by rfl
  refine ⟨found, ?_⟩
  rcases (returnCode_of_findWith.2 _ _ _ found).2.2.1 rfl with ⟨nothing, -⟩ | ok
  · cases nothing
  · exact ok

end TxInspect.Outcome
