import TxInspect.Command.Run
import TxInspect.Proofs.Json.Objects

/-!
# Documents in an envelope

The answer of a gateway states what the document in it states, as `data.transaction`
(`ofText_envelope`).  So it is read as this document is, and everything that is told about the one
is told about the other (`read_envelope`).
-/

namespace TxInspect.Document

open Json (Surroundings IsJson)

/-- What stands around a document in the answer of a gateway: the surroundings of its `data`, and
those of the `transaction` in it. -/
structure Envelope where
  outer : Surroundings (Json.maxDepth - 1) "data"
  inner : Surroundings (Json.maxDepth - 2) "transaction"

/-- The answer of a gateway with a document. -/
def Envelope.around (e : Envelope) (text : List UInt8) : List UInt8 :=
  e.outer.around (e.inner.around text)

/-- The transaction that the answer of a gateway states. -/
def transaction? (document : Json) : Option Json :=
  (document.member? "data").bind (Json.member? "transaction")

variable {text : List UInt8}

/-- A document that is no answer of a gateway is read by its own value. -/
theorem read_of_bare {α : Type} (r : Json.Reader α) {document : String} {v : Json}
    (h : Json.ofText (Utf8.bytes document) = .ok v) (bare : transaction? v = none) :
    read r document = Json.orMismatch (r.ofValue v) := by
  have own : unwrapped v = v := by
    change (transaction? v).getD v = v
    rw [bare, Option.getD_none]
  rw [read, h]
  change Json.orMismatch (r.ofValue (unwrapped v)) = _
  rw [own]

/-- What is told about an executed transaction depends on what is read. -/
theorem tellOutcome_congr {document other : String}
    (h : executedTransaction other = executedTransaction document) (i : Command.Invocation) :
    i.tellOutcome other = i.tellOutcome document := by
  simp only [Command.Invocation.tellOutcome, h]

/-- An envelope around a document states it, and is refused only if the document is. -/
theorem ofText_envelope (e : Envelope) (h : IsJson (Json.maxDepth - 2) text) :
    ∃ wrap : Json → Json, (∀ v, transaction? (wrap v) = some v) ∧
      Json.ofText (e.around text) = (Json.ofText text).map wrap := by
  obtain ⟨node, hscan, whole⟩ := h
  obtain ⟨wrapInner, memberInner, inner⟩ := e.inner.exists_wrap
  obtain ⟨wrapOuter, memberOuter, outer⟩ := e.outer.exists_wrap
  obtain ⟨data, hdata, wholeData, valueData⟩ := inner text node hscan whole.not_breaksOff
  obtain ⟨answer, hanswer, -, valueAnswer⟩ := outer _ data hdata wholeData
  have value : answer.value Json.maxDepth =
      ((node.value Json.maxDepth).map wrapInner).map wrapOuter := by
    rw [whole.value_eq (by decide : Json.maxDepth - 2 ≤ Json.maxDepth), ← valueData]
    exact valueAnswer
  refine ⟨wrapOuter ∘ wrapInner, fun v => ?_, ?_⟩
  · rw [transaction?, Function.comp, memberOuter, Option.bind_some, memberInner]
  · rw [Json.ofText, Json.ofText, Envelope.around, hanswer, hscan]
    dsimp only
    rw [value]
    cases node.value Json.maxDepth <;> rfl

/-- The answer of a gateway is read as the document in it, without looking for another envelope
inside.  A document that is no such answer itself is read by itself as it is in an envelope, and the
reports are the same. -/
theorem read_envelope (e : Envelope) {document answer : String}
    (h : IsJson (Json.maxDepth - 2) (Utf8.bytes document))
    (around : Utf8.bytes answer = e.around (Utf8.bytes document)) :
    (∀ (α : Type) (r : Json.Reader α), read r answer =
      Json.ofText (Utf8.bytes document) >>= fun v => Json.orMismatch (r.ofValue v)) ∧
    ((∀ v, Json.ofText (Utf8.bytes document) = .ok v → transaction? v = none) →
      (∀ (α : Type) (r : Json.Reader α), read r answer = read r document) ∧
        transaction answer = transaction document ∧
        executedTransaction answer = executedTransaction document ∧
        ∀ i : Command.Invocation, i.describe answer = i.describe document ∧
          i.tellOutcome answer = i.tellOutcome document) := by
  obtain ⟨wrap, states, wrapped⟩ := ofText_envelope e h
  have removed : ∀ (α : Type) (r : Json.Reader α), read r answer =
      Json.ofText (Utf8.bytes document) >>= fun v => Json.orMismatch (r.ofValue v) := by
    intro α r
    rw [read, around, wrapped]
    cases Json.ofText (Utf8.bytes document) with
    | error fault => rfl
    | ok v =>
      have opened : unwrapped (wrap v) = v := by
        change (transaction? (wrap v)).getD (wrap v) = v
        rw [states, Option.getD_some]
      change Json.orMismatch (r.ofValue (unwrapped (wrap v))) = _
      rw [opened]
      rfl
  refine ⟨removed, fun bare => ?_⟩
  have same : ∀ (α : Type) (r : Json.Reader α), read r answer = read r document := by
    intro α r
    rw [removed]
    cases hv : Json.ofText (Utf8.bytes document) with
    | error fault =>
      rw [read, hv]
      rfl
    | ok v =>
      rw [read_of_bare r hv (bare v hv)]
      rfl
  have told : executedTransaction answer = executedTransaction document :=
    congrArg (Except.map ExecutedTransaction.withReceivers) (same _ _)
  refine ⟨same, same _ _, told, fun i => ⟨?_, tellOutcome_congr told i⟩⟩
  rw [Command.Invocation.describe, transaction, same]
  rfl

/-- A key without white space around it. -/
def plainLabel (name : String) : Json.Label name where
  front := []
  written := Utf8.encode (name.toList.flatMap Json.escapedChar)
  gap := []
  isSpace_front := by simp
  isQuoted := Json.isQuoted_escaped name
  isSpace_gap := by simp

/-- The code of an answer. -/
def sampleCode : Json.OtherMember (Json.maxDepth - 1) "data" where
  key := "code"
  key_ne := by decide
  label := plainLabel "code"
  text := Utf8.bytes "\"ok\""
  value := .text "ok"
  reads := by rfl

/-- The answer of a gateway with a code in front and a line break behind. -/
def sampleEnvelope : Envelope where
  outer.left := []
  outer.right := [0x0A]
  outer.isSpace_left := by simp
  outer.isSpace_right := by simp [Json.isSpace]
  outer.before := [sampleCode]
  outer.behind := []
  outer.label := plainLabel "data"
  inner.left := [0x20]
  inner.right := []
  inner.isSpace_left := by simp [Json.isSpace]
  inner.isSpace_right := by simp
  inner.before := []
  inner.behind := []
  inner.label := plainLabel "transaction"

/-- A transaction with data of its own. -/
def sampleDocument : String := "\x7b\"value\":\"7\",\"data\":\"YWRk\"\x7d"

/-- The answer with this transaction. -/
def sampleAnswer : String :=
  "\x7b\"code\":\"ok\",\"data\": \x7b\"transaction\":" ++ sampleDocument ++ "\x7d\x7d\n"

/-- The transaction as it is written. -/
def sampleNode : Json.Node :=
  .object [((Utf8.bytes "value").map .byte, .text ((Utf8.bytes "7").map .byte)),
    ((Utf8.bytes "data").map .byte, .text ((Utf8.bytes "YWRk").map .byte))] none

theorem scan_sampleDocument : Json.scan (Utf8.bytes sampleDocument) = ⟨sampleNode, false⟩ := by
  rfl

theorem isJson_sampleDocument : IsJson 125 (Utf8.bytes sampleDocument) := by
  refine ⟨sampleNode, scan_sampleDocument, .object fun m hm => ?_⟩
  simp only [List.mem_cons, List.not_mem_nil, or_false] at hm
  rcases hm with rfl | rfl <;> exact .text _ _

theorem ofText_sampleDocument : Json.ofText (Utf8.bytes sampleDocument) =
    .ok (.object [("value", .text "7"), ("data", .text "YWRk")]) := by
  rw [Json.ofText, scan_sampleDocument]
  rfl

theorem read_sampleAnswer : transaction sampleAnswer = .ok ⟨"", "", "YWRk", "7"⟩ ∧
    ∀ i : Command.Invocation, i.describe sampleAnswer = i.describe sampleDocument := by
  have around : Utf8.bytes sampleAnswer = sampleEnvelope.around (Utf8.bytes sampleDocument) := by
    decide +kernel
  have bare : ∀ v, Json.ofText (Utf8.bytes sampleDocument) = .ok v → transaction? v = none := by
    intro v hv
    cases ofText_sampleDocument.symm.trans hv
    rfl
  obtain ⟨-, same, -, told⟩ :=
    (read_envelope sampleEnvelope isJson_sampleDocument around).2 bare
  refine ⟨?_, fun i => (told i).1⟩
  rw [same, transaction, read, ofText_sampleDocument]
  rfl

end TxInspect.Document
