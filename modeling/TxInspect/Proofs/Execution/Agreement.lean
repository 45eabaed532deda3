import Mathlib.Data.List.Perm.Basic
import Mathlib.Logic.Relation
import Mathlib.Tactic.Common
import TxInspect.Proofs.Execution.DecisionTable

/-!
# What the outcome depends on

Two transactions agree (`Agree`) if nothing that the rows of the decision table look at tells them
apart; events are compared without their order.  They have the same outcome then, and so has a
transaction after any number of changes that do not matter: a new order of the events of a log, more
events of other kinds, other hashes and log addresses, and more results without return data after
the first (`Edit`, `findWith_eq_of_agree`).
-/

namespace TxInspect.Outcome

open Results

/-- The first result that carries return data. -/
def firstCandidate? (tx : ExecutedTransaction) : Option ContractResult :=
  tx.results.find? fun r => decide (IsCandidate r)

/-- The events in the log of the first result. -/
def firstLog (tx : ExecutedTransaction) : List Event :=
  match tx.results with
  | r :: _ => logEvents r
  | [] => []

/-- The events with an identifier. -/
def withIdentifier (identifier : String) (events : List Event) : List Event :=
  events.filter fun e => e.identifier = identifier

/-- The transactions are the same in everything that their outcome depends on. -/
structure Agree (tx tx' : ExecutedTransaction) : Prop where
  sender : tx.sender = tx'.sender
  invalid : tx.status = "invalid" ↔ tx'.status = "invalid"
  receipt : receiptData tx = receiptData tx'
  receiver : tx.receivers.head? = tx'.receivers.head?
  results : tx.results = [] ↔ tx'.results = []
  candidate : (firstCandidate? tx).map (fun r => (r.data, r.returnMessage)) =
    (firstCandidate? tx').map (fun r => (r.data, r.returnMessage))
  firstLog : (withIdentifier "writeLog" (firstLog tx)).Perm
    (withIdentifier "writeLog" (firstLog tx'))
  events : tx.events = [] ↔ tx'.events = []
  signalErrors : (withIdentifier "signalError" tx.events).Perm
    (withIdentifier "signalError" tx'.events)
  writeLogs : (withIdentifier "writeLog" tx.events).Perm (withIdentifier "writeLog" tx'.events)

/-- A change of a log: its address, the order of its events, or one more event of another kind in a
log that is not empty. -/
inductive LogEdit : Logs → Logs → Prop where
  | address (log : Logs) (address : String) : LogEdit log { log with address }
  | reorder (log : Logs) {events : List Event} (h : log.events.Perm events) :
    LogEdit log { log with events }
  | add (log : Logs) (e : Event) (nonempty : log.events ≠ [])
    (noError : e.identifier ≠ "signalError") (noWriting : e.identifier ≠ "writeLog") :
    LogEdit log { log with events := e :: log.events }

/-- A change of a result: its hash or its log. -/
inductive ResultEdit : ContractResult → ContractResult → Prop where
  | hash (r : ContractResult) (hash : String) : ResultEdit r { r with hash }
  | log (r : ContractResult) {log log' : Logs} (hr : r.logs = some log) (h : LogEdit log log') :
    ResultEdit r { r with logs := some log' }

/-- A change of a transaction that does not matter for its outcome. -/
inductive Edit : ExecutedTransaction → ExecutedTransaction → Prop where
  | hash (tx : ExecutedTransaction) (hash : String) : Edit tx { tx with hash }
  | log (tx : ExecutedTransaction) {log log' : Logs} (htx : tx.logs = some log)
    (h : LogEdit log log') : Edit tx { tx with logs := some log' }
  | result (tx : ExecutedTransaction) {before after : List ContractResult} {r r' : ContractResult}
    (htx : tx.results = before ++ r :: after) (h : ResultEdit r r') :
    Edit tx { tx with results := before ++ r' :: after }
  | insert (tx : ExecutedTransaction) {first : ContractResult} {before after : List ContractResult}
    (htx : tx.results = first :: (before ++ after)) {r : ContractResult} (h : ¬ IsCandidate r) :
    Edit tx { tx with results := first :: (before ++ r :: after) }

/-! ### Rows are blind to the order of events -/

theorem countRule_of_perm {identifier : String} {message : Event → Option String}
    {events events' : List Event} (h : events.Perm events') :
    countRule identifier message events = countRule identifier message events' := by
  -- The rule tells apart no event, one event and more, and lists of one length fall together.
  match events, events', h with
  | [], events', h => rw [List.nil_perm.1 h]
  | [e], events', h => rw [List.singleton_perm.1 h]
  | _ :: _ :: _, [], h => exact absurd h.length_eq (by simp)
  | _ :: _ :: _, [_], h => exact absurd h.length_eq (by simp)
  | _ :: _ :: _, _ :: _ :: _, _ => rfl

theorem filter_withIdentifier (identifier : String) (P : Event → Prop) [DecidablePred P]
    (events : List Event) :
    (events.filter fun e => e.identifier = identifier ∧ P e) =
      (withIdentifier identifier events).filter fun e => decide (P e) := by
  rw [withIdentifier, List.filter_filter]
  congr 1
  funext e
  rw [Bool.eq_iff_iff]
  simp [and_comm]

theorem countRule_filter_of_perm {identifier : String} {message : Event → Option String}
    (P : Event → Prop) [DecidablePred P] {events events' : List Event}
    (h : (withIdentifier identifier events).Perm (withIdentifier identifier events')) :
    countRule identifier message (events.filter fun e => e.identifier = identifier ∧ P e) =
      countRule identifier message (events'.filter fun e => e.identifier = identifier ∧ P e) := by
  rw [filter_withIdentifier, filter_withIdentifier]
  exact countRule_of_perm (h.filter _)

/-! ### Transactions that agree -/

variable {tx tx' : ExecutedTransaction}

theorem resultRow_eq (tx : ExecutedTransaction) :
    resultRow tx = ((firstCandidate? tx).map fun r => (r.data, r.returnMessage)).map fun p =>
      stated p.1 (if p.2 = "" then none else some p.2) := by
  rw [resultRow, firstCandidate?, Option.map_map]
  rfl

theorem fallbackRow_eq (tx : ExecutedTransaction) :
    fallbackRow tx = tx.receivers.head?.bind fun receiver =>
      countRule "writeLog" (fun _ => none) ((firstLog tx).filter fun e =>
        e.identifier = "writeLog" ∧ e.address = tx.sender ∧ StartsWithHexOf receiver e) := by
  rw [fallbackRow, firstLog]
  cases tx.receivers with
  | nil => rfl
  | cons receiver receivers => cases tx.results <;> rfl

theorem Agree.row_eq (h : Agree tx tx') (addresses : Addresses) (r : Recognizer) :
    r.row addresses tx = r.row addresses tx' := by
  cases r with
  | moveBalance =>
    have events : logged tx = [] ↔ logged tx' = [] := h.events
    simp only [Recognizer.row, moveBalanceRow, h.results, events]
  | invalid => simp only [Recognizer.row, invalidRow, h.invalid, h.receipt]
  | result => simp only [Recognizer.row, resultRow_eq, h.candidate]
  | signalError => exact countRule_of_perm h.signalErrors
  | tooMuchGas => exact countRule_filter_of_perm WarnsOfGas h.writeLogs
  | writeLogToSender =>
    simp only [Recognizer.row, writeLogRow, h.sender]
    split_ifs
    · rfl
    · exact countRule_filter_of_perm _ h.writeLogs
  | fallback =>
    simp only [Recognizer.row, fallbackRow_eq, h.receiver, h.sender]
    congr 1
    funext receiver
    exact countRule_filter_of_perm _ h.firstLog

theorem Agree.result_findWith (h : Agree tx tx') (addresses : Addresses) :
    (findWith addresses tx).result = (findWith addresses tx').result := by
  rw [findWith, findWith, result_findAmong, result_findAmong]
  congr 1
  exact List.map_congr_left fun r _ => h.row_eq addresses r

/-! ### Changes that do not matter -/

theorem LogEdit.events_eq_nil_iff {log log' : Logs} (h : LogEdit log log') :
    log.events = [] ↔ log'.events = [] := by
  cases h with
  | address => exact Iff.rfl
  | reorder h =>
    constructor
    · rintro hnil
      exact List.nil_perm.1 (hnil ▸ h)
    · rintro hnil
      exact List.perm_nil.1 (hnil ▸ h)
  | add e nonempty => simp [nonempty]

theorem LogEdit.perm {log log' : Logs} (h : LogEdit log log') {identifier : String}
    (kind : identifier = "signalError" ∨ identifier = "writeLog") :
    (withIdentifier identifier log.events).Perm (withIdentifier identifier log'.events) := by
  cases h with
  | address => exact .refl _
  | reorder h => exact h.filter _
  | add e _ noError noWriting =>
    have other : e.identifier ≠ identifier := by
      rcases kind with rfl | rfl
      · exact noError
      · exact noWriting
    simp [withIdentifier, other]

theorem ResultEdit.data_eq {r r' : ContractResult} (h : ResultEdit r r') :
    (r.data, r.returnMessage) = (r'.data, r'.returnMessage) := by
  cases h <;> rfl

theorem ResultEdit.isCandidate_iff {r r' : ContractResult} (h : ResultEdit r r') :
    IsCandidate r ↔ IsCandidate r' := by
  cases h <;> exact Iff.rfl

theorem ResultEdit.perm {r r' : ContractResult} (h : ResultEdit r r') :
    (withIdentifier "writeLog" (logEvents r)).Perm (withIdentifier "writeLog" (logEvents r')) := by
  cases h with
  | hash => exact .refl _
  | log hr h =>
    rw [logEvents, hr]
    exact h.perm (Or.inr rfl)

theorem Edit.agree (h : Edit tx tx') : Agree tx tx' := by
  cases h with
  | hash => exact ⟨rfl, .rfl, rfl, rfl, .rfl, rfl, .refl _, .rfl, .refl _, .refl _⟩
  | @log log log' htx h =>
    have before : tx.events = log.events := by rw [ExecutedTransaction.events, htx]; rfl
    refine ⟨rfl, .rfl, rfl, rfl, .rfl, rfl, .refl _, ?_, ?_, ?_⟩
    · rw [before]
      exact h.events_eq_nil_iff
    · rw [before]
      exact h.perm (Or.inl rfl)
    · rw [before]
      exact h.perm (Or.inr rfl)
  | @result before after r r' htx h =>
    refine ⟨rfl, .rfl, rfl, rfl, ?_, ?_, ?_, .rfl, .refl _, .refl _⟩
    · simp [htx]
    · rw [firstCandidate?, firstCandidate?, htx]
      simp only [List.find?_append, List.find?_cons, h.isCandidate_iff]
      cases before.find? fun r => decide (IsCandidate r) with
      | some first => rfl
      | none =>
        by_cases hr : IsCandidate r'
        · simpa [hr] using h.data_eq
        · simp [hr]
    · rw [firstLog, firstLog, htx]
      cases before with
      | nil => exact h.perm
      | cons => exact .refl _
  | @insert first before after htx r h =>
    refine ⟨rfl, .rfl, rfl, rfl, ?_, ?_, ?_, .rfl, .refl _, .refl _⟩
    · simp [htx]
    · simp [firstCandidate?, htx, List.find?_append, List.find?_cons, h]
    · rw [firstLog, firstLog, htx]

/-- Transactions that agree have the same outcome, and so have transactions that differ in changes
that do not matter. -/
theorem findWith_eq_of_agree (addresses : Addresses) :
    (∀ tx tx', Agree tx tx' →
      (findWith addresses tx).result = (findWith addresses tx').result) ∧
    (∀ tx tx', Relation.ReflTransGen Edit tx tx' →
      (findWith addresses tx).result = (findWith addresses tx').result) := by
  constructor
  · exact fun tx tx' h => h.result_findWith addresses
  · intro tx tx' h
    induction h with
    | refl => rfl
    | tail _ edit ih => exact ih.trans (edit.agree.result_findWith addresses)

/-- An error with its message. -/
def refusal : Event :=
  ⟨"signalError", "bob", [Utf8.bytes "alice", Utf8.bytes "not allowed"],
    Utf8.bytes "@75736572206572726f72"⟩

/-- Some data that is not asked for. -/
def remark : Event :=
  ⟨"writeLog", "bob", [], Utf8.bytes "@6f6b"⟩

/-- A transaction whose call has failed. -/
def refused : ExecutedTransaction where
  hash := "a1b2"
  sender := "alice"
  receiver := "bob"
  receivers := ["bob"]
  status := "success"
  receipt := none
  results := [⟨"c3", 0, "", "", none⟩]
  logs := some ⟨"bob", [refusal, remark]⟩

/-- The same with the events in another order, an event of another kind in front of them, and one
more result, which has return data but no nonce. -/
def rearranged : ExecutedTransaction :=
  { refused with
    results := [⟨"c3", 0, "", "", none⟩, ⟨"d4", 0, "@6f6b", "", none⟩]
    logs := some ⟨"bob", [⟨"completedTxEvent", "bob", [], []⟩, remark, refusal]⟩ }

theorem result_findWith_rearranged :
    refused ≠ rearranged ∧
      (findWith (fun _ => none) refused).result = .ok (some ⟨.userError, "not allowed", []⟩) ∧
      (findWith (fun _ => none) rearranged).result =
        .ok (some ⟨.userError, "not allowed", []⟩) := by
  have reordered : Edit refused { refused with logs := some ⟨"bob", [remark, refusal]⟩ } :=
    .log refused rfl (.reorder _ (.swap _ _ []))
  have added : Edit { refused with logs := some ⟨"bob", [remark, refusal]⟩ }
      { refused with logs := rearranged.logs } :=
    .log _ rfl (.add _ _ (List.cons_ne_nil _ _) (by decide) (by decide))
  have inserted : Edit { refused with logs := rearranged.logs } rearranged :=
    @Edit.insert _ _ [] [] rfl ⟨"d4", 0, "@6f6b", "", none⟩ (by decide)
  have same := (findWith_eq_of_agree fun _ => none).2 refused rearranged
    (.head reordered (.head added (.single inserted)))
  have found : (findWith (fun _ => none) refused).result =
      .ok (some ⟨.userError, "not allowed", []⟩) := rfl
  exact ⟨by decide, found, same.symm.trans found⟩

end TxInspect.Outcome
