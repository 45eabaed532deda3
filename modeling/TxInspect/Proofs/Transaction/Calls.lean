import Mathlib.Tactic.Common
import TxInspect.Proofs.Codec.Hex
import TxInspect.Proofs.Results
import TxInspect.Proofs.Text.Pieces
import TxInspect.Proofs.Text.Utf8
import TxInspect.Transaction.Decoder

/-!
# Calls in data fields

The bytes of a data field that is a call are the bytes of its name and its arguments
(`callBytes`, `result_describeOuter_of_callBytes`), and no call is described that its data field
does not state (`exists_of_call?`) or whose arguments are not hexadecimal (`isText_of_call?`).
-/

namespace TxInspect.Transaction

open Results

/-- The text of a call. -/
def callText (name : String) (args : List String) : List Char :=
  Text.joined '@' ((name :: args).map String.toList)

/-- The bytes of a call. -/
def callBytes (name : String) (args : List String) : List UInt8 :=
  Utf8.encode (callText name args)

variable {tx : Transaction} {m : Metadata} {name : String} {args : List String}

theorem map_ofList_map_toList (texts : List String) :
    (texts.map String.toList).map String.ofList = texts := by
  simp

theorem map_toList_map_ofList (texts : List (List Char)) :
    (texts.map String.ofList).map String.toList = texts := by
  simp

/-- The name and the arguments of a call make its text. -/
theorem callText_splitCall (text : List Char) :
    callText (splitCall text).1 (splitCall text).2 = text := by
  have whole := Text.joined_pieces separator text
  rw [splitCall]
  split
  · next h => exact absurd (List.map_eq_nil_iff.1 h) (Text.pieces_ne_nil separator text)
  · next name args h =>
    rw [callText, ← h, map_toList_map_ofList]
    exact whole

theorem splitCall_callText (h : ∀ s ∈ name :: args, separator ∉ s.toList) :
    splitCall (callText name args) = (name, args) := by
  have apart : ∀ q ∈ name.toList :: args.map String.toList, '@' ∉ q := by
    simpa [separator] using h
  rw [callText, splitCall, separator, List.map_cons, Text.pieces_joined apart, ← List.map_cons,
    map_ofList_map_toList]

theorem separator_notMem_of_isText {arg : String} (h : Hex.isText arg = true) :
    separator ∉ arg.toList := by
  intro hmem
  have := Hex.isSome_hexadecimal?_of_isText h separator hmem
  exact absurd this (by decide)

/-- The transaction with a call, if its arguments are hexadecimal. -/
def withCallIfHex (m : Metadata) (call : String × List String) : Metadata :=
  if call.2.all Hex.isText then m.withCall call.1 call.2 else m

/-- The result of describing a transaction by itself. -/
theorem result_describeOuter (tx : Transaction) :
    (describeOuter tx).result = readValue tx.value >>= fun value =>
      if tx.data = "" then .ok (.plain tx.sender tx.receiver value)
      else (Base64.ofText tx.data).mapError .badData >>= fun bs =>
        .ok (withCallIfHex (.plain tx.sender tx.receiver value)
          (splitCall (Utf8.decodeLossy bs))) := by
  rw [describeOuter, Log.Account.result_bind]
  refine bind_congr fun value => ?_
  split_ifs
  · rfl
  · rw [Log.Account.result_bind]
    refine bind_congr fun bs => ?_
    rw [withCallIfHex]
    cases splitCall (Utf8.decodeLossy bs) with
    | mk name args => dsimp only; split_ifs <;> rfl

/-- What a described transaction is: one that only moves an amount, or the call that its data field
states, with arguments in hexadecimal. -/
theorem describeOuter_eq_ok (h : (describeOuter tx).result = .ok m) :
    ∃ value, m = .plain tx.sender tx.receiver value ∨
      ∃ bs name args, Base64.ofText tx.data = .ok bs ∧ Utf8.decodeLossy bs = callText name args ∧
        (∀ arg ∈ args, Hex.isText arg = true) ∧
        m = (Metadata.plain tx.sender tx.receiver value).withCall name args := by
  rw [result_describeOuter] at h
  obtain ⟨value, -, h⟩ := bind_eq_ok_iff.1 h
  refine ⟨value, ?_⟩
  split_ifs at h
  · cases h
    exact Or.inl rfl
  · obtain ⟨bs, hbs, h⟩ := bind_eq_ok_iff.1 h
    cases h
    rw [withCallIfHex]
    split_ifs with hex
    · exact Or.inr ⟨bs, _, _, mapError_eq_ok_iff.1 hbs, (callText_splitCall _).symm,
        List.all_eq_true.1 hex, rfl⟩
    · exact Or.inl rfl

theorem receiver_of_describeOuter (h : (describeOuter tx).result = .ok m) :
    m.receiver = tx.receiver := by
  obtain ⟨value, rfl | ⟨_, _, _, -, -, -, rfl⟩⟩ := describeOuter_eq_ok h
  · rfl
  · rfl

theorem call?_plain (sender receiver : String) (value : Nat) :
    (Metadata.plain sender receiver value).call? = none := rfl

theorem call?_withCall (m : Metadata) (name : String) (args : List String) :
    (m.withCall name args).call? = some (name, args) := rfl

theorem call?_eq_some_iff :
    m.call? = some (name, args) ↔ m.functionName = some name ∧ m.functionArgs = some args := by
  unfold Metadata.call?
  split
  · next own ownArgs hname hargs => rw [hname, hargs]; simp
  · next none =>
    refine iff_of_false (by simp) ?_
    rintro ⟨hname, hargs⟩
    exact none name args hname hargs

/-- A call that is described stands in the data field. -/
theorem exists_of_call? (h : (describeOuter tx).result = .ok m)
    (call : m.call? = some (name, args)) :
    ∃ bs, Base64.ofText tx.data = .ok bs ∧ Utf8.decodeLossy bs = callText name args := by
  obtain ⟨value, rfl | ⟨bs, name', args', hbs, htext, -, rfl⟩⟩ := describeOuter_eq_ok h
  · rw [call?_plain] at call
    cases call
  · rw [call?_withCall] at call
    cases call
    exact ⟨bs, hbs, htext⟩

/-- Only hexadecimal arguments make a call. -/
theorem isText_of_call? (h : (describeOuter tx).result = .ok m) (name : String)
    (args : List String) (call : m.call? = some (name, args)) :
    ∀ arg ∈ args, Hex.isText arg = true := by
  obtain ⟨value, rfl | ⟨bs, name', args', -, -, hex, rfl⟩⟩ := describeOuter_eq_ok h
  · rw [call?_plain] at call
    cases call
  · rw [call?_withCall] at call
    cases call
    exact hex

theorem callText_ne_nil (h : args ≠ []) : callText name args ≠ [] := by
  cases args with
  | nil => exact absurd rfl h
  | cons arg args => simp [callText, Text.joined]

theorem data_ne_empty (hdata : Base64.ofText tx.data = .ok (callBytes name args))
    (h : callText name args ≠ []) : tx.data ≠ "" := by
  intro hempty
  have nothing : Base64.ofText "" = .ok [] := rfl
  rw [hempty, nothing, Except.ok.injEq] at hdata
  have text := Utf8.decodeLossy_encode (callText name args)
  rw [← callBytes, ← hdata] at text
  exact h text.symm

/-- A data field with the bytes of a call whose text is not empty is described as this call. -/
theorem result_describeOuter_of_callText {value : Nat} (hvalue : readValue tx.value = .ok value)
    (hdata : Base64.ofText tx.data = .ok (callBytes name args)) (hne : callText name args ≠ [])
    (hname : separator ∉ name.toList) (hargs : ∀ arg ∈ args, Hex.isText arg = true) :
    (describeOuter tx).result =
      .ok ((Metadata.plain tx.sender tx.receiver value).withCall name args) := by
  have apart : ∀ s ∈ name :: args, separator ∉ s.toList := by
    intro s hs
    rcases List.mem_cons.1 hs with rfl | hs
    · exact hname
    · exact separator_notMem_of_isText (hargs s hs)
  have split : splitCall (Utf8.decodeLossy (callBytes name args)) = (name, args) := by
    rw [callBytes, Utf8.decodeLossy_encode, splitCall_callText apart]
  have hex : args.all Hex.isText = true := List.all_eq_true.2 hargs
  rw [result_describeOuter, hvalue]
  simp only [bind, Except.bind, if_neg (data_ne_empty hdata hne), hdata, Except.mapError, split,
    withCallIfHex, hex, if_true]

/-- A data field with the bytes of a call is described as this call. -/
theorem result_describeOuter_of_callBytes {value : Nat} (hvalue : readValue tx.value = .ok value)
    (hdata : Base64.ofText tx.data = .ok (callBytes name args)) (hne : args ≠ [])
    (hname : separator ∉ name.toList) (hargs : ∀ arg ∈ args, Hex.isText arg = true) :
    (describeOuter tx).result =
      .ok ((Metadata.plain tx.sender tx.receiver value).withCall name args) :=
  result_describeOuter_of_callText hvalue hdata (callText_ne_nil hne) hname hargs

end TxInspect.Transaction
