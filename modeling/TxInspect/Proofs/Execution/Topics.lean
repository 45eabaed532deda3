import Mathlib.Tactic.Common
import TxInspect.Proofs.Codec.Base64
import TxInspect.Proofs.Codec.Hex
import TxInspect.Proofs.Execution.DecisionTable

/-!
# Topics that name an account

The recognizers of outcomes read topics, but a topic names an account in few ways: `accountTopics`
lists all that name a sender (`namesAccount_iff_mem`), and the first topic of an event names a
receiver if it is the text of the receiver in hexadecimal, in any mix of cases (`SpellsInHex`).  So
`result_runWith_eq_of_topics` says which events the recognizers count without reading a topic.
-/

namespace TxInspect.Outcome

/-- The topics that name an account: its raw address and base64 of it, if its text is an address,
and base64 of its text. -/
def accountTopics (addresses : Addresses) (account : String) : List (List UInt8) :=
  match addresses account with
  | some raw => [raw, Base64.encode raw, Base64.encode (Utf8.bytes account)]
  | none => [Base64.encode (Utf8.bytes account)]

/-- The topic is the text in hexadecimal, in any mix of cases. -/
def SpellsInHex (text : String) (topic : List UInt8) : Prop :=
  (topic.map Digit.ofByte).map Char.toLower = Hex.encode (Utf8.bytes text)

instance (text : String) : DecidablePred (SpellsInHex text) := fun _ =>
  inferInstanceAs (Decidable (_ = Hex.encode (Utf8.bytes text)))

/-- A topic names an account if it is one of the account's topics. -/
theorem namesAccount_iff_mem (addresses : Addresses) (account : String) (topic : List UInt8) :
    NamesAccount addresses account topic ↔ topic ∈ accountTopics addresses account := by
  unfold NamesAccount accountTopics
  simp only [Base64.decode_eq_ok_iff]
  cases addresses account with
  | none => simp
  | some raw =>
    simp only [Option.some.injEq, List.mem_cons, List.not_mem_nil, or_false]
    constructor
    · rintro (rfl | ⟨bs, rfl, rfl | rfl⟩) <;> simp
    · rintro (rfl | rfl | rfl)
      · exact Or.inl rfl
      · exact Or.inr ⟨raw, rfl, Or.inl rfl⟩
      · exact Or.inr ⟨Utf8.bytes account, rfl, Or.inr rfl⟩

theorem isAddressedTo_iff_mem (addresses : Addresses) (account : String) (e : Event) :
    isAddressedTo addresses account e = true ↔
      ∃ topic ∈ e.topics, topic ∈ accountTopics addresses account := by
  simp only [isAddressedTo_iff, IsAddressedTo, namesAccount_iff_mem]

theorem startsWithHexOf_iff_spells (text : String) (e : Event) :
    startsWithHexOf text e = true ↔ ∃ topic ∈ e.topics.head?, SpellsInHex text topic := by
  simp only [startsWithHexOf_iff, StartsWithHexOf, Hex.decode_eq_ok_iff, SpellsInHex,
    Option.mem_def]

/-- The recognizers that look for the log of an account's contract count the events with the
identifier of a log and a topic that names the account.  For the sender, any topic may be one of
`accountTopics`; for the first receiver, the address of the event has to be the sender's, and its
first topic decides. -/
theorem result_runWith_eq_of_topics (addresses : Addresses) (tx : ExecutedTransaction) :
    (tx.sender ≠ "" →
      (Recognizer.writeLogToSender.runWith addresses tx).result =
        Row.answer (countRule "writeLog" (fun _ => none) (tx.events.filter fun e =>
          e.identifier = "writeLog" ∧
            ∃ topic ∈ e.topics, topic ∈ accountTopics addresses tx.sender))) ∧
    ∀ (receiver : String) (receivers : List String) (r : ContractResult) (rs : List ContractResult),
      tx.receivers = receiver :: receivers → tx.results = r :: rs →
        (Recognizer.fallback.runWith addresses tx).result =
          Row.answer (countRule "writeLog" (fun _ => none) ((logEvents r).filter fun e =>
            e.identifier = "writeLog" ∧ e.address = tx.sender ∧
              ∃ topic ∈ e.topics.head?, SpellsInHex receiver topic)) := by
  refine ⟨fun hsender => ?_, fun receiver receivers r rs hreceivers hresults => ?_⟩
  · show writeLogToSender addresses tx = _
    rw [writeLogToSender, if_neg hsender]
    exact ofSingle_eq_answer_of_iff (isAddressedTo_iff_mem addresses tx.sender) _ tx.events
  · show (fallback tx).result = _
    rw [result_fallback hreceivers hresults]
    apply ofSingle_eq_answer_of_iff
    intro e
    rw [Bool.and_eq_true, decide_eq_true_iff, startsWithHexOf_iff_spells]

/-- If the sender's address is `[1, 2, 3]`, base64 of it counts.  The topic `YWxpY2V=`, which is
base64 of the sender's text but for an excess bit, does not. -/
def addressed : ExecutedTransaction where
  hash := "a1b2"
  sender := "alice"
  receiver := "bob"
  receivers := ["bob"]
  status := "success"
  receipt := none
  results := [⟨"c3", 0, "", "",
    some ⟨"bob", [⟨"writeLog", "alice", [Utf8.bytes "626F62", []], Utf8.bytes "@6f6b@03"⟩]⟩⟩]
  logs := some ⟨"bob",
    [⟨"writeLog", "bob", [Utf8.bytes "YWxpY2V="], Utf8.bytes "@75736572206572726f72"⟩,
      ⟨"writeLog", "bob", [[], Utf8.bytes "AQID"], Utf8.bytes "@6f6b"⟩]⟩

theorem result_runWith_addressed :
    (Recognizer.writeLogToSender.runWith (fun _ => some [1, 2, 3]) addressed).result =
        .ok (some ⟨.ok, "ok", []⟩) ∧
      (Recognizer.fallback.runWith (fun _ => some [1, 2, 3]) addressed).result =
        .ok (some ⟨.ok, "ok", [[0x30, 0x33]]⟩) := by
  have counted := result_runWith_eq_of_topics (fun _ => some [1, 2, 3]) addressed
  exact ⟨(counted.1 (by decide)).trans (by rfl),
    (counted.2 "bob" [] _ [] rfl rfl).trans (by rfl)⟩

end TxInspect.Outcome
