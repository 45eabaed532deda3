import Mathlib.Tactic.Common
import TxInspect.Proofs.Codec.Bech32.Texts
import TxInspect.Proofs.Text.LetterCase

/-!
# The text of an address and its bytes

In a format that is made with `Format.ofPrefix` every address reads back from its text, also in
capital letters, and what reads can be written.  What is written is the text that has been read, in
small letters, exactly if this text has the plain checksum and no bits to spare
(`encode_decode_ofPrefix`).
-/

namespace TxInspect.Address.Format

open Results

variable {f : Format} {bs : List UInt8} {text : String}

theorem encode_eq_ok_iff_toList : f.encode bs = .ok text ↔
    bs.length = f.size ∧ Bech32.encode f.hrp.toList bs = .ok text.toList := by
  rw [encode, checkSize]
  by_cases size : bs.length = f.size
  · rw [if_pos size]
    cases Bech32.encode f.hrp.toList bs with
    | error cause => simp [bind, Except.bind]
    | ok cs => simp [bind, Except.bind, size, ← String.toList_inj]
  · rw [if_neg size]
    simp [bind, Except.bind, size]

theorem decode_eq_ok_iff_toList : f.decode text = .ok bs ↔
    bs.length = f.size ∧ Bech32.decode text.toList = .ok (f.hrp.toList, bs) := by
  rw [decode]
  cases Bech32.decode text.toList with
  | error cause => simp [Except.mapError, bind, Except.bind]
  | ok found =>
    obtain ⟨hrp, out⟩ := found
    have name : hrp = f.hrp.toList ↔ String.ofList hrp = f.hrp := by
      rw [← String.toList_inj, String.toList_ofList]
    simp only [Except.mapError, bind, Except.bind, Except.ok.injEq, Prod.mk.injEq, name, checkSize]
    by_cases same : String.ofList hrp = f.hrp
    · by_cases size : out.length = f.size
      · simp only [same, ne_eq, not_true_eq_false, if_false, if_pos size, pure, Except.pure,
          Except.ok.injEq, true_and]
        exact ⟨fun h => ⟨h ▸ size, h⟩, fun h => h.2⟩
      · simp only [same, ne_eq, not_true_eq_false, if_false, if_neg size, reduceCtorEq, false_iff,
          true_and]
        exact fun h => size (h.2 ▸ h.1)
    · simp [same]

theorem isCapital_hrp_ofPrefix (name : String) (size : Nat) :
    ∀ c ∈ (ofPrefix name size).hrp.toList, Bech32.isCapital c = false :=
  fun _ hc => Text.isCapital_of_mem_lowerCase hc

/-- What is written reads back. -/
theorem decode_encode (low : ∀ c ∈ f.hrp.toList, Bech32.isCapital c = false)
    (h : f.encode bs = .ok text) : f.decode text = .ok bs := by
  obtain ⟨size, h⟩ := encode_eq_ok_iff_toList.1 h
  exact decode_eq_ok_iff_toList.2 ⟨size, Bech32.decode_encode low h⟩

/-- No two addresses have one text. -/
theorem encode_inj (low : ∀ c ∈ f.hrp.toList, Bech32.isCapital c = false) {more : List UInt8}
    (h : f.encode bs = .ok text) (h' : f.encode more = .ok text) : bs = more := by
  have back := decode_encode low h
  rw [decode_encode low h', Except.ok.injEq] at back
  exact back.symm

/-- What reads also reads in capital letters. -/
theorem decode_toUpper (h : f.decode text = .ok bs) : f.decode text.toUpper = .ok bs := by
  obtain ⟨size, h⟩ := decode_eq_ok_iff_toList.1 h
  rw [String.toUpper]
  refine decode_eq_ok_iff_toList.2 ⟨size, ?_⟩
  rw [String.toList_map]
  exact Bech32.decode_toUpper h

/-- What reads can be written. -/
theorem exists_encode_of_decode (h : f.decode text = .ok bs) :
    ∃ written, f.encode bs = .ok written := by
  obtain ⟨size, h⟩ := decode_eq_ok_iff_toList.1 h
  obtain ⟨cs, hcs⟩ := Bech32.exists_encode_of_decode h
  refine ⟨String.ofList cs, encode_eq_ok_iff_toList.2 ⟨size, ?_⟩⟩
  rw [hcs, String.toList_ofList]

/-- What is written for the address that a text states is this text in small letters exactly if the
text has the plain checksum and its symbols have no bits to spare. -/
theorem encode_eq_lowerCase_iff (h : f.decode text = .ok bs) {written : String}
    (hwritten : f.encode bs = .ok written) : ∃ p, Bech32.parts? text.toList = some p ∧
      (written = Text.lowerCase text ↔
        p.hasChecksum .plain = true ∧ Bech32.IsFilled p.payload) := by
  obtain ⟨-, h⟩ := decode_eq_ok_iff_toList.1 h
  obtain ⟨-, hwritten⟩ := encode_eq_ok_iff_toList.1 hwritten
  obtain ⟨p, hp, -, sum, hname, rfl⟩ := Bech32.decode_eq_ok_iff.1 h
  rw [← hname] at hwritten
  have low : Text.lowerCase text = String.ofList (text.toList.map Bech32.small) :=
    Text.lowerCase_of_ascii (Bech32.toNat_lt_of_parts? hp)
  refine ⟨p, hp, ?_⟩
  rw [← Bech32.encode_eq_map_small_iff hp sum hwritten, low, ← String.toList_inj,
    String.toList_ofList]

/-- In a format made for a human-readable part in any case and any number of bytes, an address that
can be written reads back from its text, also in capital letters, and no two addresses have one
text.  An address that has been read from a text can be written, and reads back from what is
written.  This is the text in small letters exactly if the text has the plain checksum and fewer
than five bits that make no byte, all of them zero. -/
theorem encode_decode_ofPrefix (name : String) (size : Nat) :
    (∀ bs text, (ofPrefix name size).encode bs = .ok text →
      (ofPrefix name size).decode text = .ok bs ∧
        (ofPrefix name size).decode text.toUpper = .ok bs) ∧
    (∀ bs more text, (ofPrefix name size).encode bs = .ok text →
      (ofPrefix name size).encode more = .ok text → bs = more) ∧
    ∀ text bs, (ofPrefix name size).decode text = .ok bs →
      ∃ written, (ofPrefix name size).encode bs = .ok written ∧
        (ofPrefix name size).decode written = .ok bs ∧
        ∃ p, Bech32.parts? text.toList = some p ∧
          (written = Text.lowerCase text ↔ p.hasChecksum .plain = true ∧
            (Bech32.leftover p.payload).length < 5 ∧
              ∀ bit ∈ Bech32.leftover p.payload, bit = false) := by
  have low := isCapital_hrp_ofPrefix name size
  refine ⟨?_, ?_, ?_⟩
  · intro bs text h
    have back := decode_encode low h
    exact ⟨back, decode_toUpper back⟩
  · exact fun bs more text h h' => encode_inj low h h'
  · intro text bs h
    obtain ⟨written, hwritten⟩ := exists_encode_of_decode h
    exact ⟨written, hwritten, decode_encode low hwritten, encode_eq_lowerCase_iff h hwritten⟩

/-- The address of one zero byte has a second text, with a bit that is not zero to spare. -/
theorem encode_decode_erd :
    (ofPrefix "erd" 1).decode "ERD1QQ7428NH" = .ok [0] ∧
      ∃ written, (ofPrefix "erd" 1).encode [0] = .ok written ∧
        written ≠ Text.lowerCase "erd1qprr7jw9" := by
  obtain ⟨back, -, again⟩ := encode_decode_ofPrefix "erd" 1
  have upper : "erd1qq7428nh".toUpper = "ERD1QQ7428NH" := by decide +kernel
  refine ⟨upper ▸ (back [0] "erd1qq7428nh" (by decide +kernel)).2, ?_⟩
  obtain ⟨written, hwritten, -, p, hp, same⟩ := again "erd1qprr7jw9" [0] (by decide +kernel)
  have spare : (Bech32.parts? "erd1qprr7jw9".toList).map (Bech32.leftover ·.payload) =
      some [false, true] := by decide +kernel
  rw [hp, Option.map_some, Option.some.injEq] at spare
  refine ⟨written, hwritten, fun h => ?_⟩
  have zero := (same.1 h).2.2 true
  rw [spare] at zero
  exact absurd (zero (by decide)) (by decide)

end TxInspect.Address.Format
