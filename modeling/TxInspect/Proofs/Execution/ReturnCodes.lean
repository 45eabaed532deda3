import Mathlib.Tactic.Common
import TxInspect.Execution.ReturnData
import TxInspect.Proofs.Codec.Hex

/-!
# Codes, their texts and their bytes

A table names the code of every text (`named`, `ofText_eq_named`), and every text is the text of
its code (`text_ofText`).  Return data states a code in hexadecimal (`codeBytes?`), which is never
the empty one, and which tells of a success exactly if its bytes are those of `ok`
(`isSuccess_of_ofText`): no other bytes read as this text.
-/

namespace TxInspect

namespace ReturnCode

/-- The code that a text names. -/
def named (s : String) : ReturnCode :=
  match s with
  | "" => .none
  | "ok" => .ok
  | "function not found" => .functionNotFound
  | "wrong signature for function" => .functionWrongSignature
  | "contract not found" => .contractNotFound
  | "user error" => .userError
  | "out of gas" => .outOfGas
  | "account collision" => .accountCollision
  | "out of funds" => .outOfFunds
  | "call stack overflow" => .callStackOverflow
  | "contract invalid" => .contractInvalid
  | "execution failed" => .executionFailed
  | "upgrade failed" => .upgradeFailed
  | "simulate failed" => .simulateFailed
  | s => .other s

/-- Looking a code up by its text and taking the text of a code are inverse. -/
theorem text_ofText (s : String) : (ofText s).text = s := by
  unfold ofText
  split
  · next code found => simpa using List.find?_some found
  · rfl

theorem ofText_eq_named (s : String) : ofText s = named s := by
  have text := text_ofText s
  cases code : ofText s with
  | other t =>
    rw [code] at text
    obtain rfl : t = s := text
    unfold named
    -- The texts in the table are found, so that only the last line is left.
    split
    all_goals first | rfl | exact absurd code (by decide)
  | _ =>
    rw [← text, code]
    rfl

theorem ofText_eq_none_iff {s : String} : ofText s = .none ↔ s = "" := by
  constructor
  · intro h
    rw [← text_ofText s, h]
    rfl
  · rintro rfl
    rfl

theorem isSuccess_iff {code : ReturnCode} : code.isSuccess = true ↔ code = .none ∨ code = .ok := by
  cases code <;> simp [isSuccess]

theorem isSuccess_ofText_iff {s : String} : (ofText s).isSuccess = true ↔ s = "" ∨ s = "ok" := by
  constructor
  · intro h
    rw [← text_ofText s]
    rcases isSuccess_iff.1 h with h | h
    · exact Or.inl (congrArg text h)
    · exact Or.inr (congrArg text h)
  · rintro (rfl | rfl)
    · rfl
    · rfl

end ReturnCode

namespace ReturnData

/-- The bytes of the code: those that the second piece of the data states in hexadecimal. -/
def codeBytes? (data : String) : Option (List UInt8) :=
  (Text.pieces '@' data.toList)[1]?.bind fun digits => (Hex.decode (Utf8.encode digits)).toOption

/-- No digits, no bytes. -/
theorem ne_nil_of_decode {digits : List Char} (nonempty : digits ≠ []) {bs : List UInt8}
    (h : Hex.decode (Utf8.encode digits) = .ok bs) : bs ≠ [] := by
  rintro rfl
  have none : Utf8.encode digits = [] :=
    List.length_eq_zero_iff.1 (Hex.length_of_decodePairs (Hex.decodePairs_of_decode h))
  have text := Utf8.decodeLossy_encode digits
  rw [none] at text
  exact nonempty text.symm

variable {data : String} {parts : ReturnData}

/-- What reads as return data begins with the sign, and digits for the code follow it. -/
theorem ofText_eq_ok (h : ofText data = .ok parts) : ∃ digits values bs,
    Text.pieces '@' data.toList = [] :: digits :: values ∧ digits ≠ [] ∧
      Hex.decode (Utf8.encode digits) = .ok bs ∧
      parts = ⟨.ofText (Utf8.lossy bs), values.map Utf8.encode⟩ := by
  simp only [ofText] at h
  split_ifs at h
  split at h
  · cases h
  · next digits values nonempty hpieces =>
    unfold code? at h
    cases hdigits : Hex.decode (Utf8.encode digits) with
    | error e => simp [hdigits] at h
    | ok bs =>
      simp only [hdigits, Except.ok.injEq] at h
      exact ⟨digits, values, bs, hpieces, nonempty, hdigits, h.symm⟩
  · cases h

/-- Return data states the bytes of its code, and there are some. -/
theorem code_of_ofText (h : ofText data = .ok parts) :
    ∃ bs, codeBytes? data = some bs ∧ bs ≠ [] ∧ parts.code = .ofText (Utf8.lossy bs) := by
  obtain ⟨digits, values, bs, pieces, nonempty, hdigits, rfl⟩ := ofText_eq_ok h
  refine ⟨bs, ?_, ne_nil_of_decode nonempty hdigits, rfl⟩
  rw [codeBytes?, pieces]
  simp [hdigits, Except.toOption]

/-- The values of return data are texts. -/
theorem isText_of_ofText (h : ofText data = .ok parts) : ∀ v ∈ parts.values, Utf8.IsText v := by
  obtain ⟨digits, values, bs, -, -, -, rfl⟩ := ofText_eq_ok h
  intro v hv
  obtain ⟨cs, -, rfl⟩ := List.mem_map.1 hv
  exact Utf8.isText_encode cs

/-- Return data always has a code. -/
theorem code_ne_none (h : ofText data = .ok parts) : parts.code ≠ .none := by
  obtain ⟨bs, -, nonempty, code⟩ := code_of_ofText h
  rw [code, Ne, ReturnCode.ofText_eq_none_iff, Utf8.lossy_eq_iff_of_ascii (by simp)]
  exact nonempty

theorem ofText_text_code (h : ofText data = .ok parts) :
    ReturnCode.ofText parts.code.text = parts.code := by
  obtain ⟨bs, -, -, code⟩ := code_of_ofText h
  rw [code, ReturnCode.text_ofText]

/-- The code tells of a success exactly if its bytes are those of `ok`. -/
theorem isSuccess_of_ofText (h : ofText data = .ok parts) :
    parts.code.isSuccess = true ↔ codeBytes? data = some (Utf8.bytes "ok") := by
  obtain ⟨bs, bytes, nonempty, code⟩ := code_of_ofText h
  have empty : Utf8.lossy bs ≠ "" := by
    rw [Ne, Utf8.lossy_eq_iff_of_ascii (by simp)]
    exact nonempty
  rw [code, ReturnCode.isSuccess_ofText_iff, or_iff_right empty, bytes, Option.some.injEq,
    Utf8.lossy_eq_iff_of_ascii (by simp)]

end ReturnData

end TxInspect
