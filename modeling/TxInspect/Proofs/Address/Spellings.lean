import Mathlib.Tactic.Common
import TxInspect.Proofs.Address.Correspondence
import TxInspect.Proofs.Codec.Hex
import TxInspect.Proofs.Text.Blank

/-!
# Spellings of an address

An address of 32 bytes may be given by its text, in small or in capital letters, or by hexadecimal
digits, with the mark `0x` or without it (`Spelling`).  A text has the length of so many digits
under some human-readable parts, but the bytes leave a single bit for the last symbol before the
checksum, and no such symbol is written with a digit (`isHexForm_eq_false_of_encode`).  So every
spelling resolves to the same forms (`resolve_of_spelling`).
-/

namespace TxInspect.Bech32

/-! ### The last symbol -/

/-- The symbol of a single bit. -/
def bitSymbol (a : Bool) : Symbol :=
  BitVec.ofBoolListBE [a, false, false, false, false]

/-- One bit that is left over makes a symbol of its own. -/
theorem exists_bitSymbol_mem {bits : List Bool} (h : bits.length % 5 = 1) :
    ∃ a, bitSymbol a ∈ symbolsOfBits bits := by
  fun_induction symbolsOfBits bits with
  | case1 a b c d e rest ih =>
    simp only [List.length_cons] at h
    obtain ⟨bit, hbit⟩ := ih (by omega)
    exact ⟨bit, List.mem_cons_of_mem _ hbit⟩
  | case2 => simp at h
  | case3 a => exact ⟨a, List.mem_singleton_self _⟩
  | case4 => simp at h
  | case5 => simp at h
  | case6 => simp at h

/-- The character belongs neither to hexadecimal digits nor to the mark in front of them. -/
def IsNoDigit (c : Char) : Prop :=
  Digit.hexadecimal? c = none ∧ c ≠ 'x'

instance (c : Char) : Decidable (IsNoDigit c) :=
  inferInstanceAs (Decidable (_ ∧ _))

theorem isNoDigit_bitSymbol :
    ∀ a, IsNoDigit (symbolChar (bitSymbol a)) ∧ IsNoDigit (symbolChar (bitSymbol a)).toUpper := by
  decide

section Text

variable {hrp text : List Char} {bs : List UInt8}

/-- A character that is no digit stands in the text of 32 bytes, also in capital letters. -/
theorem exists_isNoDigit (h : encode hrp bs = .ok text) (size : bs.length = 32) :
    ∃ c ∈ text, IsNoDigit c ∧ IsNoDigit c.toUpper := by
  obtain ⟨-, rfl, -⟩ := encode_eq_ok h
  have bits : (bs.flatMap byteBits).length % 5 = 1 := by
    rw [length_flatMap_byteBits, size]
  obtain ⟨a, ha⟩ := exists_bitSymbol_mem bits
  refine ⟨symbolChar (bitSymbol a), ?_, isNoDigit_bitSymbol a⟩
  have payload : bitSymbol a ∈ ofBytes bs ++ checksum .plain hrp (ofBytes bs) :=
    List.mem_append_left _ ha
  exact List.mem_append_right _ (List.mem_cons_of_mem _ (List.mem_map_of_mem payload))

theorem isHrpChar_symbolChar (s : Symbol) : isHrpChar (symbolChar s) = true :=
  of_symbols (fun s => isHrpChar (symbolChar s) = true) (by decide) s

theorem isHrpChar_of_mem_encode (h : encode hrp bs = .ok text) :
    ∀ c ∈ text, isHrpChar c = true := by
  obtain ⟨hhrp, rfl, -⟩ := encode_eq_ok h
  obtain ⟨-, -, printable, -⟩ := (checkHrp_eq_ok_iff hrp).1 hhrp
  intro c hc
  rcases List.mem_append.1 hc with hc | hc
  · exact printable c hc
  rcases List.mem_cons.1 hc with rfl | hc
  · decide
  · obtain ⟨s, -, rfl⟩ := List.mem_map.1 hc
    exact isHrpChar_symbolChar s

end Text

theorem isBlank_of_isHrpChar {c : Char} (h : isHrpChar c = true) : Text.isBlank c = false := by
  apply Utf8.of_ascii (fun c => isHrpChar c = true → Text.isBlank c = false) (by decide)
  · exact toNat_lt_of_isHrpChar h
  · exact h

end TxInspect.Bech32

namespace TxInspect.Address.Format

open Results

/-! ### Valid formats -/

/-- Every human-readable part makes a valid format for 32 bytes. -/
theorem isValid_ofPrefix {name : String} (h : Bech32.checkHrp name.toList = .ok ()) :
    (ofPrefix name 32).IsValid := by
  have low : (ofPrefix name 32).hrp.toList = name.toList.map Bech32.small := by
    rw [ofPrefix, Text.lowerCase_of_ascii (Bech32.toNat_lt_of_checkHrp h), String.toList_ofList]
  obtain ⟨-, short, -, -⟩ := (Bech32.checkHrp_eq_ok_iff name.toList).1 h
  have size : Bech32.maxHrpLength = 83 ∧ Bech32.checksumSize = 6 ∧ Bech32.maxLength = 1023 :=
    ⟨rfl, rfl, rfl⟩
  rw [IsValid, low]
  refine ⟨Bech32.checkHrp_map_small h, ?_⟩
  simp only [Bech32.textLength, List.length_map, ofPrefix]
  omega

/-! ### The form of an input -/

theorem mem_afterMark {c : Char} (h : Bech32.IsNoDigit c) {cs : List Char} (hc : c ∈ cs) :
    c ∈ afterMark cs := by
  fun_cases afterMark cs with
  | case1 cs =>
    rcases List.mem_cons.1 hc with rfl | hc
    · exact absurd h (by decide)
    · exact (List.mem_cons.1 hc).resolve_left h.2
  | case2 => exact hc

/-- A text with a character that is no digit is not taken for digits. -/
theorem isHexForm_eq_false (f : Format) {c : Char} (h : Bech32.IsNoDigit c) {cs : List Char}
    (hc : c ∈ cs) : f.isHexForm (afterMark cs) = false := by
  rw [isHexForm, Bool.and_eq_false_iff]
  refine Or.inr (List.all_eq_false.2 ⟨c, mem_afterMark h hc, ?_⟩)
  rw [h.1]
  decide

theorem afterMark_of_digits {digits : List Char}
    (h : ∀ c ∈ digits, (Digit.hexadecimal? c).isSome) : afterMark digits = digits := by
  fun_cases afterMark digits with
  | case1 cs => exact absurd (h 'x' (by simp)) (by decide)
  | case2 => rfl

section Resolve

variable {f : Format} {bs : List UInt8} {text digits : String}

/-- The text of an address is never taken for digits, also in capital letters. -/
theorem isHexForm_eq_false_of_encode (h : f.encode bs = .ok text) (size : bs.length = 32) :
    f.isHexForm (afterMark text.toList) = false ∧
      f.isHexForm (afterMark text.toUpper.toList) = false := by
  obtain ⟨c, hc, low, high⟩ := Bech32.exists_isNoDigit (encode_eq_ok_iff_toList.1 h).2 size
  refine ⟨isHexForm_eq_false f low hc, isHexForm_eq_false f high ?_⟩
  rw [String.toUpper, String.toList_map]
  exact List.mem_map_of_mem hc

/-- As many digits as an address has are taken for digits. -/
theorem isHexForm_of_ofText (h : Hex.ofText digits = .ok bs) (size : bs.length = f.size)
    (small : f.size * 2 < Word.limit 64) : f.isHexForm digits.toList = true := by
  have all := Hex.isSome_hexadecimal?_of_ofText h
  have bytes := Hex.length_of_decodePairs (Hex.decodePairs_of_decode h)
  rw [isHexForm, Bool.and_eq_true, beq_iff_eq, Nat.mod_eq_of_lt small, List.all_eq_true]
  refine ⟨?_, all⟩
  change (Utf8.bytes digits).length = f.size * 2
  omega

theorem forms_of_encode (h : f.encode bs = .ok text) :
    f.forms bs = .ok ⟨text, Hex.toText bs, isContract bs⟩ := by
  rw [forms, h]
  rfl

theorem resolveBytes_of_decode (hinput : f.isHexForm (afterMark text.toList) = false)
    (h : f.decode text = .ok bs) : f.resolveBytes text.toList = .ok bs := by
  rw [resolveBytes, hinput, if_neg Bool.false_ne_true, String.ofList_toList, h]

theorem resolveBytes_of_ofText {input : List Char} (hinput : afterMark input = digits.toList)
    (h : Hex.ofText digits = .ok bs) (size : bs.length = f.size)
    (small : f.size * 2 < Word.limit 64) : f.resolveBytes input = .ok bs := by
  rw [resolveBytes, hinput, isHexForm_of_ofText h size small, if_pos rfl, String.ofList_toList,
    hexBytes, h]
  rfl

end Resolve

/-! ### Spellings -/

/-- The spellings of an address with a text: this text in small or in capital letters, and its bytes
in hexadecimal digits of any case, with a mark in front or without one. -/
inductive Spelling (text : String) (bs : List UInt8) : String → Prop where
  | text : Spelling text bs text
  | capitals : Spelling text bs text.toUpper
  | digits {digits : String} (h : digits.toLower = Hex.toText bs) : Spelling text bs digits
  | marked {digits : String} (h : digits.toLower = Hex.toText bs) :
    Spelling text bs ("0x" ++ digits)

section Spelling

variable {f : Format} {bs : List UInt8} {text spelling : String}

theorem isBlank_of_digit {c : Char} (h : (Digit.hexadecimal? c).isSome) :
    Text.isBlank c = false := by
  apply Utf8.of_ascii (fun c => (Digit.hexadecimal? c).isSome → Text.isBlank c = false) (by decide)
  · exact ((Hex.isDigit_iff c).2 h).toNat_lt
  · exact h

theorem Spelling.isBlank_eq_false (h : Spelling text bs spelling) (htext : f.encode bs = .ok text) :
    ∀ c ∈ spelling.toList, Text.isBlank c = false := by
  have printable := Bech32.isHrpChar_of_mem_encode (encode_eq_ok_iff_toList.1 htext).2
  cases h with
  | text => exact fun c hc => Bech32.isBlank_of_isHrpChar (printable c hc)
  | capitals =>
    rw [String.toUpper, String.toList_map]
    refine List.forall_mem_map.2 fun c hc => ?_
    exact Bech32.isBlank_of_isHrpChar (Bech32.isHrpChar_toUpper (printable c hc))
  | digits h =>
    have all := Hex.isSome_hexadecimal?_of_ofText (Hex.ofText_of_toLower h)
    exact fun c hc => isBlank_of_digit (all c hc)
  | marked h =>
    have all := Hex.isSome_hexadecimal?_of_ofText (Hex.ofText_of_toLower h)
    intro c hc
    rw [String.toList_append, List.mem_append] at hc
    rcases hc with hc | hc
    · have mark : c = '0' ∨ c = 'x' := by simpa using hc
      rcases mark with rfl | rfl
      · decide
      · decide
    · exact isBlank_of_digit (all c hc)

theorem Spelling.resolveBytes (h : Spelling text bs spelling) (hsize : f.size = 32)
    (htext : f.encode bs = .ok text) (back : f.decode text = .ok bs) :
    f.resolveBytes spelling.toList = .ok bs := by
  have size : bs.length = f.size := (encode_eq_ok_iff_toList.1 htext).1
  have small : f.size * 2 < Word.limit 64 := by
    rw [hsize]
    decide
  obtain ⟨low, high⟩ := isHexForm_eq_false_of_encode htext (size.trans hsize)
  cases h with
  | text => exact resolveBytes_of_decode low back
  | capitals => exact resolveBytes_of_decode high (decode_toUpper back)
  | digits h =>
    have read := Hex.ofText_of_toLower h
    have bare := afterMark_of_digits (Hex.isSome_hexadecimal?_of_ofText read)
    exact resolveBytes_of_ofText bare read size small
  | @marked digits h =>
    have bare : afterMark ("0x" ++ digits).toList = digits.toList := by
      rw [String.toList_append]
      rfl
    exact resolveBytes_of_ofText bare (Hex.ofText_of_toLower h) size small

end Spelling

/-- The address of a contract of 32 bytes starts with eight zeros. -/
theorem isContract_eq {bs : List UInt8} (size : bs.length = 32) :
    isContract bs = decide (bs.take 8 = List.replicate 8 0) := by
  have long : contractZeros < bs.length := by
    rw [size]
    decide
  rw [isContract, decide_eq_true long, Bool.true_and, Bool.eq_iff_iff, List.all_eq_true,
    decide_eq_true_iff, List.eq_replicate_iff]
  simp [contractZeros, size]

/-- In a valid format every address of 32 bytes has a text that is never taken for digits, and every
spelling of the address, with any white space around it, resolves to this text, the digits of the
bytes, and whether the first eight bytes are zero. -/
theorem resolve_of_spelling (name : String) (valid : (ofPrefix name 32).IsValid) (bs : List UInt8)
    (size : bs.length = 32) :
    ∃ text, (ofPrefix name 32).encode bs = .ok text ∧
      (ofPrefix name 32).isHexForm (afterMark text.toList) = false ∧
      ∀ before spelling after, Text.isBlankText before.toList = true → Spelling text bs spelling →
        Text.isBlankText after.toList = true →
        (ofPrefix name 32).resolve (before ++ spelling ++ after) =
          .ok ⟨text, Hex.toText bs, decide (bs.take 8 = List.replicate 8 0)⟩ := by
  obtain ⟨text, htext⟩ := (encode_eq_ok_iff (ofPrefix name 32) bs).2 ⟨size, valid⟩
  have back := decode_encode (isCapital_hrp_ofPrefix name 32) htext
  refine ⟨text, htext, (isHexForm_eq_false_of_encode htext size).1, ?_⟩
  intro before spelling after hbefore h hafter
  have trimmed : Text.trim (before ++ spelling ++ after).toList = spelling.toList := by
    rw [String.toList_append, String.toList_append]
    exact Text.trim_append hbefore hafter (h.isBlank_eq_false htext)
  rw [resolve, trimmed, h.resolveBytes rfl htext back, ← isContract_eq size]
  exact forms_of_encode htext

/-- Under this human-readable part a text is as long as the mark and the digits. -/
theorem resolve_lookalike :
    ∃ text, (ofPrefix "0xabcde" 32).encode (List.replicate 32 0) = .ok text ∧
      (ofPrefix "0xabcde" 32).resolve ("\t" ++ text.toUpper ++ " ") =
        .ok ⟨text, Hex.toText (List.replicate 32 0), true⟩ := by
  have valid : (ofPrefix "0xabcde" 32).IsValid := isValid_ofPrefix (by decide)
  obtain ⟨text, htext, -, all⟩ :=
    resolve_of_spelling "0xabcde" valid (List.replicate 32 0) List.length_replicate
  exact ⟨text, htext, all "\t" text.toUpper " " (by decide) .capitals (by decide)⟩

end TxInspect.Address.Format
