import Mathlib.Tactic.Common
import TxInspect.Proofs.Json.Members
import TxInspect.Proofs.Json.Numerals
import TxInspect.Proofs.Json.Strings

/-!
# One value of an object, as a string and as a number

A `Place` in a text is one for the value of a member of the outermost object.  It can be filled with
a string, whose bytes state a text (`IsQuoted`, `quotation`), or with a number.  The text states the
same members in front of this value and behind it, provided that the object is whole
(`Place.exists_members`).
-/

namespace TxInspect.Json

/-- The bytes between the quotes of a string with this text. -/
def IsQuoted (written : List UInt8) (s : String) : Prop :=
  ∃ q : Literal, PartialLiteral.run? .empty written = some ⟨q.reverse, .plain⟩ ∧ q.read = .ok s

theorem isQuoted_escaped (s : String) :
    IsQuoted (Utf8.encode (s.toList.flatMap escapedChar)) s := by
  obtain ⟨q, hq, run⟩ := exists_literal s
  exact ⟨q, run, hq⟩

theorem escapedChar_of_isDigit {c : Char} (h : c.isDigit = true) : escapedChar c = [c] := by
  have ascii : c.toNat < 0x80 := by
    obtain ⟨-, high⟩ : 48 ≤ c.toNat ∧ c.toNat ≤ 57 := by
      simpa [Char.isDigit, UInt32.le_iff_toNat_le] using h
    omega
  revert h
  exact Utf8.of_ascii (fun c => c.isDigit = true → escapedChar c = [c]) (by decide) ascii

/-- Digits stand for themselves. -/
theorem isQuoted_text (n : Nat) : IsQuoted (Utf8.bytes (Decimal.text n)) (Decimal.text n) := by
  have plain : (Decimal.text n).toList.flatMap escapedChar = (Decimal.text n).toList := by
    calc (Decimal.text n).toList.flatMap escapedChar
        = (Decimal.text n).toList.flatMap fun c => [c] :=
          List.flatMap_congr fun c hc => escapedChar_of_isDigit (Decimal.isDigit_of_mem_text hc)
      _ = (Decimal.text n).toList := List.flatMap_singleton' _
  have escaped := isQuoted_escaped (Decimal.text n)
  rwa [plain] at escaped

/-- The string of these bytes. -/
def quotation (written : List UInt8) : List UInt8 :=
  0x22 :: (written ++ [0x22])

/-- The place of the value of a member in a text: what stands in front of it takes the machine
there, with the members that it has read and the key. -/
structure Place (name : String) where
  before : List UInt8
  after : List UInt8
  members : List (Literal × Node)
  key : Literal
  foldl_before : before.foldl State.step .start = .reading [.member members key] .value
  read_key : key.read = .ok name

namespace Place

variable {name : String}

/-- The text with a value in the place. -/
def filled (p : Place name) (value : List UInt8) : List UInt8 :=
  p.before ++ value ++ p.after

theorem scan_filled (p : Place name) (value : List UInt8) : scan (p.filled value) =
    (p.after.foldl State.step
      (value.foldl State.step (.reading [.member p.members p.key] .value))).finish := by
  rw [scan, filled, List.foldl_append, List.foldl_append, p.foldl_before]

/-- A string is read up to its second quote. -/
theorem foldl_quotation (p : Place name) {written : List UInt8} {q : Literal}
    (run : PartialLiteral.run? .empty written = some ⟨q.reverse, .plain⟩) :
    (quotation written).foldl State.step (.reading [.member p.members p.key] .value) =
      .reading [] (.nextMember ((p.key, .text q) :: p.members)) := by
  have opening : (State.reading [.member p.members p.key] .value).step 0x22 =
      .reading [.member p.members p.key] (.text .empty) := rfl
  have text := (readsString_text [.member p.members p.key]).foldl_run? run
  rw [quotation, List.foldl_cons, opening, List.foldl_append, text, List.foldl_cons,
    List.foldl_nil, State.step, State.stepReading,
    PartialLiteral.step_quote]
  rfl

/-- A number is read up to the byte behind it. -/
theorem foldl_number (p : Place name) {num : PartialNumeral} {n : Nat} (h : num.IsNumber n)
    {b : UInt8} (ends : EndsMember b) (rest : List UInt8) :
    (b :: rest).foldl State.step (.reading [.member p.members p.key] (.number num)) =
      (b :: rest).foldl State.step
        (.reading [] (.nextMember ((p.key, .number num.numeral) :: p.members))) := by
  have same : (State.reading [.member p.members p.key] (.number num)).step b =
      (State.reading [] (.nextMember ((p.key, .number num.numeral) :: p.members))).step b := by
    have finished := PartialNumeral.step_of_isWhole h.isWhole_eq ends
    simp only [State.step, State.stepReading, finished, State.afterValue, State.stepAfter,
      State.stepMark]
  rw [List.foldl_cons, List.foldl_cons, same]

/-- The members around the value do not depend on it.  A number may also run on into what stands
behind it, but not if the object is whole with a string in its place. -/
theorem exists_members (p : Place name) : ∃ rest ending hasMore,
    (∀ written s, IsQuoted written s → ∃ q : Literal, q.read = .ok s ∧
      scan (p.filled (quotation written)) =
        ⟨.object (p.members.reverse ++ (p.key, .text q) :: rest) ending, hasMore⟩) ∧
    (ending = none → ∀ n, ∃ num : PartialNumeral, num.IsNumber n ∧
      scan (p.filled (Utf8.bytes (Decimal.text n))) =
        ⟨.object (p.members.reverse ++ (p.key, .number num.numeral) :: rest) ending, hasMore⟩) := by
  obtain ⟨rest, ending, hasMore, root⟩ := Json.exists_members p.after
  refine ⟨rest, ending, hasMore, ?_, ?_⟩
  · rintro written s ⟨q, run, hq⟩
    refine ⟨q, hq, ?_⟩
    rw [scan_filled, foldl_quotation p run, root, List.reverse_cons, List.append_assoc]
    rfl
  · rintro rfl n
    obtain ⟨num, number, digits⟩ := exists_isNumber n
    have read : (Utf8.bytes (Decimal.text n)).foldl State.step
        (.reading [.member p.members p.key] .value) =
          .reading [.member p.members p.key] (.number num) := by
      rw [Utf8.bytes, Decimal.text, String.toList_ofList]
      exact digits [.member p.members p.key]
    obtain ⟨b, tail, hafter, ends⟩ := exists_of_ending_none (root [])
    refine ⟨num, number, ?_⟩
    rw [scan_filled, read, hafter, foldl_number p number ends, ← hafter, root, List.reverse_cons,
      List.append_assoc]
    rfl

end Place

end TxInspect.Json
