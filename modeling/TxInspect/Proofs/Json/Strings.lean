import Mathlib.Tactic.Common
import TxInspect.Json.Printer
import TxInspect.Json.Value
import TxInspect.Proofs.Text.Utf8

/-!
# Strings that are written and read

What is written between the quotes of a string takes the reader of the string on to its end
(`PartialLiteral.run?`) and leaves pieces that state the same characters (`StandsFor`): each
character does, whether it is written as it is or as an escape, and so do all of them in a row.
-/

namespace TxInspect.Json

/-! ### Reading on -/

/-- The string after more bytes, if it does not end in them. -/
def PartialLiteral.run? (q : PartialLiteral) : List UInt8 → Option PartialLiteral
  | [] => some q
  | b :: bs =>
    match q.step b with
    | .more r => r.run? bs
    | _ => none

theorem PartialLiteral.run?_append (q : PartialLiteral) (bs cs : List UInt8) :
    q.run? (bs ++ cs) = (q.run? bs).bind fun r => r.run? cs := by
  induction bs generalizing q with
  | nil => rfl
  | cons b bs ih =>
    rw [List.cons_append, run?, run?]
    cases q.step b with
    | more r => exact ih r
    | finished r => rfl
    | broken => rfl

/-- A quote ends a string. -/
theorem PartialLiteral.step_quote (q : Literal) :
    PartialLiteral.step ⟨q.reverse, .plain⟩ 0x22 = .finished q := by
  simp [step, literal]

/-- A byte that stands for itself in a string. -/
def IsPlain (b : UInt8) : Prop :=
  b ≠ 0x22 ∧ b ≠ 0x5C ∧ ¬ b < 0x20

theorem run?_of_isPlain {bs : List UInt8} (h : ∀ b ∈ bs, IsPlain b) (before : List Piece) :
    PartialLiteral.run? ⟨before, .plain⟩ bs = some ⟨(bs.map .byte).reverse ++ before, .plain⟩ := by
  induction bs generalizing before with
  | nil => rfl
  | cons b bs ih =>
    obtain ⟨quote, backslash, control⟩ := h b List.mem_cons_self
    have step : PartialLiteral.step ⟨before, .plain⟩ b = .more ⟨.byte b :: before, .plain⟩ := by
      simp only [PartialLiteral.step, if_neg quote, if_neg backslash, if_neg control,
        PartialLiteral.push]
    rw [PartialLiteral.run?, step]
    dsimp only
    rw [ih fun c hc => h c (List.mem_cons_of_mem b hc), List.map_cons, List.reverse_cons,
      List.append_assoc]
    rfl

theorem run?_controlEscape {x y : UInt8} {n : Nat} (h : unit? [0x30, 0x30, x, y] = some n)
    (before : List Piece) :
    PartialLiteral.run? ⟨before, .plain⟩ [0x5C, 0x75, 0x30, 0x30, x, y] =
      some ⟨.unit n :: before, .plain⟩ := by
  have last : PartialLiteral.step ⟨before, .digits [0x30, 0x30, x]⟩ y =
      .more ⟨.unit n :: before, .plain⟩ := by
    simp only [PartialLiteral.step, h, PartialLiteral.push]
  change PartialLiteral.run? ⟨before, .digits [0x30, 0x30, x]⟩ [y] = _
  rw [PartialLiteral.run?, last]
  rfl

/-! ### What pieces state -/

theorem Literal.bytes?_bytes {q : Literal} {bs : List UInt8} (h : q.bytes? = .ok bs)
    (cs : List UInt8) : Literal.bytes? (cs.map .byte ++ q) = .ok (cs ++ bs) := by
  induction cs with
  | nil => exact h
  | cons c cs ih =>
    rw [List.map_cons, List.cons_append, Literal.bytes?, ih]
    rfl

/-- An escape that is no half of a pair is a character of its own. -/
theorem Literal.bytes?_unit {n : Nat} (trailing : isTrailing n = false)
    (leading : isLeading n = false) {q : Literal} {bs : List UInt8} (h : q.bytes? = .ok bs) :
    Literal.bytes? (.unit n :: q) = .ok (Utf8.encode [Char.ofNat n] ++ bs) := by
  cases q with
  | nil =>
    cases h
    simp [Literal.bytes?, trailing, leading]
  | cons p q =>
    cases p with
    | byte b =>
      rw [Literal.bytes?] at h
      cases hq : Literal.bytes? q with
      | error e =>
        rw [hq] at h
        cases h
      | ok cs =>
        rw [hq] at h
        cases h
        simp [Literal.bytes?, trailing, leading, hq, Except.map]
    | unit m => simp [Literal.bytes?, trailing, leading, h, Except.map]

/-- In a string, `written` stands for `cs`: it takes the reader on by pieces that state them. -/
def StandsFor (written cs : List Char) : Prop :=
  ∃ q : Literal,
    (∀ before, PartialLiteral.run? ⟨before, .plain⟩ (Utf8.encode written) =
      some ⟨q.reverse ++ before, .plain⟩) ∧
    ∀ rest bs, Literal.bytes? rest = .ok bs → (q ++ rest).bytes? = .ok (Utf8.encode cs ++ bs)

theorem standsFor_nil : StandsFor [] [] :=
  ⟨[], fun _ => rfl, fun _ _ h => h⟩

theorem StandsFor.append {written more cs ds : List Char} (h : StandsFor written cs)
    (hmore : StandsFor more ds) : StandsFor (written ++ more) (cs ++ ds) := by
  obtain ⟨q, run, bytes⟩ := h
  obtain ⟨r, runMore, bytesMore⟩ := hmore
  refine ⟨q ++ r, fun before => ?_, fun rest bs hrest => ?_⟩
  · rw [Utf8.encode_append, PartialLiteral.run?_append, run, Option.bind_some, runMore,
      List.reverse_append, List.append_assoc]
  · rw [List.append_assoc, bytes _ _ (bytesMore _ _ hrest), Utf8.encode_append, List.append_assoc]

/-- The pieces are the bytes of the character. -/
theorem standsFor_of_bytes {written : List Char} {c : Char}
    (h : ∀ before, PartialLiteral.run? ⟨before, .plain⟩ (Utf8.encode written) =
      some ⟨((Utf8.encode [c]).map .byte).reverse ++ before, .plain⟩) : StandsFor written [c] :=
  ⟨(Utf8.encode [c]).map .byte, h, fun _ _ hrest => Literal.bytes?_bytes hrest _⟩

theorem standsFor_self {c : Char} (h : ∀ b ∈ Utf8.encode [c], IsPlain b) : StandsFor [c] [c] :=
  standsFor_of_bytes (run?_of_isPlain h)

theorem isPlain_of_mem_encode {c : Char} (quote : c ≠ '\"') (backslash : c ≠ '\\')
    (control : ¬ c.toNat < 0x20) {b : UInt8} (hb : b ∈ Utf8.encode [c]) : IsPlain b := by
  rw [Utf8.encode_singleton] at hb
  by_cases ascii : c.toNat < 0x80
  · rw [Utf8.utf8EncodeChar_of_lt ascii, List.mem_singleton] at hb
    rw [hb]
    revert quote backslash control
    exact Utf8.of_ascii (fun c => c ≠ '\"' → c ≠ '\\' → ¬ c.toNat < 0x20 →
      IsPlain (UInt8.ofNat c.toNat)) (by unfold IsPlain; decide) ascii
  · have high := Utf8.le_of_mem_utf8EncodeChar (Nat.le_of_not_lt ascii) hb
    refine ⟨?_, ?_, ?_⟩
    · rintro rfl
      exact absurd high (by decide)
    · rintro rfl
      exact absurd high (by decide)
    · rw [UInt8.lt_iff_toNat_lt]
      exact Nat.not_lt_of_le (Nat.le_trans (by decide) high)

theorem standsFor_controlEscape {c : Char} (h : c.toNat < 0x20) :
    StandsFor (controlEscape c) [c] := by
  have digits : ∀ n : Fin 32, ∃ x y, Utf8.encode (controlEscape (Char.ofNat n)) =
      [0x5C, 0x75, 0x30, 0x30, x, y] ∧ unit? [0x30, 0x30, x, y] = some n.val :=
    fun n => ⟨UInt8.ofNat (Digit.hexadecimal (n / 16)).toNat,
      UInt8.ofNat (Digit.hexadecimal (n % 16)).toNat, by revert n; decide⟩
  obtain ⟨x, y, bytes, unit⟩ := digits ⟨c.toNat, h⟩
  dsimp only at bytes unit
  rw [Char.ofNat_toNat] at bytes
  refine ⟨[.unit c.toNat], fun before => ?_, fun rest bs hrest => ?_⟩
  · rw [bytes, run?_controlEscape unit]
    rfl
  · have alone := Literal.bytes?_unit (n := c.toNat) (by simp [isTrailing]; omega)
      (by simp [isLeading]; omega) hrest
    rwa [Char.ofNat_toNat] at alone

theorem standsFor_escapedChar (c : Char) : StandsFor (escapedChar c) [c] := by
  unfold escapedChar
  split
  · exact standsFor_of_bytes fun _ => rfl
  · exact standsFor_of_bytes fun _ => rfl
  · exact standsFor_of_bytes fun _ => rfl
  · exact standsFor_of_bytes fun _ => rfl
  · exact standsFor_of_bytes fun _ => rfl
  · exact standsFor_of_bytes fun _ => rfl
  · exact standsFor_of_bytes fun _ => rfl
  · next quote backslash _ _ _ _ _ =>
    split_ifs with control
    · exact standsFor_controlEscape control
    · exact standsFor_self fun b hb => isPlain_of_mem_encode quote backslash control hb

theorem standsFor_escaped (cs : List Char) : StandsFor (cs.flatMap escapedChar) cs := by
  induction cs with
  | nil => exact standsFor_nil
  | cons c cs ih => exact (standsFor_escapedChar c).append ih

/-- A text between quotes is read as a string that states this text. -/
theorem exists_literal (s : String) : ∃ q : Literal, q.read = .ok s ∧
    PartialLiteral.run? .empty (Utf8.encode (s.toList.flatMap escapedChar)) =
      some ⟨q.reverse, .plain⟩ := by
  obtain ⟨q, run, bytes⟩ := standsFor_escaped s.toList
  have text : q.text? = some s := by
    have whole := bytes [] [] rfl
    rw [List.append_nil, List.append_nil] at whole
    rw [Literal.text?, whole]
    simp [Utf8.text?, Utf8.decode?_encode]
  refine ⟨q, ?_, ?_⟩
  · rw [Literal.read, text]
  · rw [PartialLiteral.empty, run, List.append_nil]

end TxInspect.Json
