import Mathlib.Tactic.Common
import TxInspect.Codec.Hex
import TxInspect.Proofs.Results
import TxInspect.Proofs.Text.Lossy

/-!
# Hexadecimal texts

What is written reads back (`ofText_toText`), in any mix of cases (`ofText_of_toLower`).  A text
that reads holds nothing but digits (`isSome_hexadecimal?_of_ofText`), two for each byte
(`length_of_ofText`), and every even number of digits reads (`isText_iff`).  Bytes whose text reads
are such a run of digits themselves (`isText_lossy_iff`).
-/

namespace TxInspect.Hex

open Results

theorem toNat_ofByte (b : UInt8) : (Digit.ofByte b).toNat = b.toNat :=
  Utf8.toNat_ofNat_of_isValid (Or.inl (by have := b.toNat_lt; omega))

theorem lt_of_isSome_value? {b : UInt8} (h : (value? b).isSome) : b.toNat < 0x80 := by
  simp only [value?, Digit.hexadecimal?, toNat_ofByte, Char.reduceToNat] at h
  split_ifs at h <;> first | omega | simp at h

/-! ### What is read -/

theorem isSome_value?_of_decodePairs {index : Nat} {digits bs : List UInt8}
    (h : decodePairs index digits = .ok bs) : ∀ d ∈ digits, (value? d).isSome := by
  fun_induction decodePairs index digits generalizing bs with
  | case1 => simp
  | case2 => cases h
  | case3 => cases h
  | case4 => cases h
  | case5 index high low rest x y hx hy ih =>
    obtain ⟨cs, hcs, -⟩ := map_eq_ok_iff.1 h
    simpa [hx, hy] using ih hcs

theorem length_of_decodePairs {index : Nat} {digits bs : List UInt8}
    (h : decodePairs index digits = .ok bs) : digits.length = 2 * bs.length := by
  fun_induction decodePairs index digits generalizing bs with
  | case1 => cases h; rfl
  | case2 => cases h
  | case3 => cases h
  | case4 => cases h
  | case5 index high low rest x y hx hy ih =>
    obtain ⟨cs, hcs, rfl⟩ := map_eq_ok_iff.1 h
    simp only [List.length_cons, ih hcs]
    omega

theorem decodePairs_of_decode {digits bs : List UInt8} (h : decode digits = .ok bs) :
    decodePairs 0 digits = .ok bs := by
  rw [decode] at h
  split_ifs at h
  exact h

theorem lt_of_ofText {s : String} {bs : List UInt8} (h : ofText s = .ok bs) :
    ∀ b ∈ Utf8.bytes s, b.toNat < 0x80 := fun b hb =>
  lt_of_isSome_value? (isSome_value?_of_decodePairs (decodePairs_of_decode h) b hb)

/-- Two digits for each byte. -/
theorem length_of_ofText {s : String} {bs : List UInt8} (h : ofText s = .ok bs) :
    s.toList.length = 2 * bs.length := by
  rw [← length_of_decodePairs (decodePairs_of_decode h), Utf8.bytes,
    Utf8.encode_of_ascii (lt_of_ofText h), List.length_map]

theorem isSome_hexadecimal?_of_ofText {s : String} {bs : List UInt8} (h : ofText s = .ok bs) :
    ∀ c ∈ s.toList, (Digit.hexadecimal? c).isSome := by
  intro c hc
  have digits := isSome_value?_of_decodePairs (decodePairs_of_decode h)
  have ascii : c.toNat < 0x80 := Utf8.lt_of_utf8EncodeChar fun b hb =>
    lt_of_ofText h b (Utf8.mem_encode hb hc)
  have hb := digits (UInt8.ofNat c.toNat)
    (Utf8.mem_encode (by simp [Utf8.utf8EncodeChar_of_lt ascii]) hc)
  rwa [value?, Digit.ofByte, Utf8.toNat_ofNat_of_lt (by omega), Char.ofNat_toNat] at hb

theorem isSome_hexadecimal?_of_isText {s : String} (h : isText s = true) :
    ∀ c ∈ s.toList, (Digit.hexadecimal? c).isSome := by
  obtain ⟨bs, hbs⟩ := isOk_iff.1 h
  exact isSome_hexadecimal?_of_ofText hbs

/-! ### Runs of digits -/

/-- A decimal digit, or a letter up to `f` in either case. -/
def IsDigit (c : Char) : Prop :=
  '0'.toNat ≤ c.toNat ∧ c.toNat ≤ '9'.toNat ∨ 'a'.toNat ≤ c.toNat ∧ c.toNat ≤ 'f'.toNat ∨
    'A'.toNat ≤ c.toNat ∧ c.toNat ≤ 'F'.toNat

/-- An even number of digits. -/
def IsRun (cs : List Char) : Prop :=
  cs.length % 2 = 0 ∧ ∀ c ∈ cs, IsDigit c

instance (c : Char) : Decidable (IsDigit c) :=
  inferInstanceAs (Decidable (_ ∨ _))

-- By the characters of the list: there is also an instance that goes through all characters.
instance (cs : List Char) : Decidable (IsRun cs) :=
  @instDecidableAnd _ _ _ (List.decidableBAll IsDigit cs)

theorem isDigit_iff (c : Char) : IsDigit c ↔ (Digit.hexadecimal? c).isSome := by
  unfold IsDigit Digit.hexadecimal?
  split_ifs with decimal low high
  · exact iff_of_true (Or.inl decimal) rfl
  · exact iff_of_true (Or.inr (Or.inl low)) rfl
  · exact iff_of_true (Or.inr (Or.inr high)) rfl
  · exact iff_of_false (fun h => h.elim decimal (·.elim low high)) Bool.false_ne_true

theorem IsDigit.toNat_lt {c : Char} (h : IsDigit c) : c.toNat < 0x80 := by
  unfold IsDigit at h
  simp only [Char.reduceToNat] at h
  omega

theorem exists_decodePairs {digits : List UInt8} (even : digits.length % 2 = 0)
    (h : ∀ d ∈ digits, (value? d).isSome) (index : Nat) :
    ∃ bs, decodePairs index digits = .ok bs := by
  fun_induction decodePairs index digits with
  | case1 => exact ⟨[], rfl⟩
  | case2 => simp at even
  | case3 index high low rest hx => simp [hx] at h
  | case4 index high low rest x hy hx => simp [hy] at h
  | case5 index high low rest x y hx hy ih =>
    have even' : rest.length % 2 = 0 := by
      rw [List.length_cons, List.length_cons] at even
      omega
    obtain ⟨bs, hbs⟩ := ih even' fun d hd => h d (by simp [hd])
    exact ⟨_, by rw [hbs]; rfl⟩

/-- The texts that read are the even numbers of digits. -/
theorem isText_iff (s : String) : isText s = true ↔ IsRun s.toList := by
  constructor
  · intro h
    obtain ⟨bs, hbs⟩ := isOk_iff.1 h
    refine ⟨?_, fun c hc => (isDigit_iff c).2 (isSome_hexadecimal?_of_ofText hbs c hc)⟩
    rw [length_of_ofText hbs]
    omega
  · rintro ⟨even, digits⟩
    have ascii : ∀ c ∈ s.toList, c.toNat < 0x80 := fun c hc => (digits c hc).toNat_lt
    have bytes : Utf8.bytes s = s.toList.map fun c => UInt8.ofNat c.toNat :=
      Utf8.encode_of_lt ascii
    have length : (Utf8.bytes s).length % 2 = 0 := by
      rwa [bytes, List.length_map]
    have values : ∀ b ∈ Utf8.bytes s, (value? b).isSome := by
      rw [bytes]
      refine List.forall_mem_map.2 fun c hc => ?_
      have := ascii c hc
      rw [value?, Digit.ofByte, Utf8.toNat_ofNat_of_lt (by omega), Char.ofNat_toNat,
        ← isDigit_iff]
      exact digits c hc
    obtain ⟨bs, hbs⟩ := exists_decodePairs length values 0
    refine isOk_iff.2 ⟨bs, ?_⟩
    rw [ofText, decode, if_pos length, hbs]

section Lossy

variable {bs : List UInt8}

theorem toNat_lt_of_isRun (h : IsRun (bs.map Digit.ofByte)) : ∀ b ∈ bs, b.toNat < 0x80 := by
  intro b hb
  have := (h.2 _ (List.mem_map_of_mem hb)).toNat_lt
  rwa [toNat_ofByte] at this

/-- Digits read as they are. -/
theorem lossy_of_isRun (h : IsRun (bs.map Digit.ofByte)) :
    Utf8.lossy bs = String.ofList (bs.map Digit.ofByte) := by
  rw [Utf8.lossy, Utf8.decodeLossy_of_ascii (toNat_lt_of_isRun h)]

/-- No faults make digits: bytes whose text is an even number of digits are these digits. -/
theorem isText_lossy_iff (bs : List UInt8) :
    isText (Utf8.lossy bs) = true ↔ IsRun (bs.map Digit.ofByte) := by
  constructor
  · intro h
    rw [isText_iff, Utf8.lossy, String.toList_ofList] at h
    have ascii : ∀ c ∈ Utf8.decodeLossy bs, c.toNat < 0x80 := fun c hc => (h.2 c hc).toNat_lt
    have bytes := Utf8.encode_decodeLossy_of_ascii ascii
    rw [Utf8.encode_of_lt ascii] at bytes
    have small : ∀ b ∈ bs, b.toNat < 0x80 := by
      rw [← bytes]
      refine List.forall_mem_map.2 fun c hc => ?_
      have := ascii c hc
      rwa [Utf8.toNat_ofNat_of_lt (by omega)]
    rwa [Utf8.decodeLossy_of_ascii small] at h
  · intro h
    rw [lossy_of_isRun h, isText_iff, String.toList_ofList]
    exact h

end Lossy

/-! ### Digits in any case -/

theorem toLower_of_le {c : Char} (h : 0x80 ≤ c.toNat) : c.toLower = c := by
  unfold Char.toLower
  rw [dif_neg]
  rintro ⟨-, high⟩
  have := UInt32.le_iff_toNat_le.1 high
  have : c.val.toNat ≤ 90 := this
  have : c.val.toNat = c.toNat := rfl
  omega

theorem hexadecimal?_toLower (c : Char) : Digit.hexadecimal? c.toLower = Digit.hexadecimal? c := by
  by_cases ascii : c.toNat < 0x80
  · exact Utf8.of_ascii (fun c => Digit.hexadecimal? c.toLower = Digit.hexadecimal? c) (by decide)
      ascii
  · rw [toLower_of_le (Nat.le_of_not_lt ascii)]

/-- A digit in any case before the bytes of the other digits. -/
theorem encode_cons_of_hexadecimal? {c : Char} {n : Nat} (h : Digit.hexadecimal? c = some n)
    (cs : List Char) : ∃ b, Utf8.encode (c :: cs) = b :: Utf8.encode cs ∧ value? b = some n := by
  have digit : (Digit.hexadecimal? c).isSome := by rw [h]; rfl
  have ascii := ((isDigit_iff c).2 digit).toNat_lt
  refine ⟨UInt8.ofNat c.toNat, ?_, ?_⟩
  · rw [Utf8.encode_cons, Utf8.utf8EncodeChar_of_lt ascii]
    rfl
  · rw [value?, Digit.ofByte, Utf8.toNat_ofNat_of_lt (by omega), Char.ofNat_toNat, h]

theorem decodePairs_of_map_toLower {cs : List Char} {bs : List UInt8}
    (h : cs.map Char.toLower = encode bs) (index : Nat) :
    decodePairs index (Utf8.encode cs) = .ok bs := by
  induction bs generalizing cs index with
  | nil =>
    rw [List.map_eq_nil_iff.1 h]
    rfl
  | cons b bs ih =>
    have hb := b.toNat_lt
    have pairs : encode (b :: bs) = Digit.hexadecimal (b.toNat / 16)
        :: Digit.hexadecimal (b.toNat % 16) :: encode bs := rfl
    rw [pairs] at h
    obtain ⟨c, ds, rfl, hc, h⟩ := List.map_eq_cons_iff.1 h
    obtain ⟨d, cs, rfl, hd, h⟩ := List.map_eq_cons_iff.1 h
    have high := Digit.hexadecimal?_hexadecimal (n := b.toNat / 16) (by omega)
    have low := Digit.hexadecimal?_hexadecimal (n := b.toNat % 16) (by omega)
    rw [← hc, hexadecimal?_toLower] at high
    rw [← hd, hexadecimal?_toLower] at low
    obtain ⟨x, hx, highValue⟩ := encode_cons_of_hexadecimal? high (d :: cs)
    obtain ⟨y, hy, lowValue⟩ := encode_cons_of_hexadecimal? low cs
    have whole : UInt8.ofNat (b.toNat / 16 * 16 + b.toNat % 16) = b :=
      Utf8.ofNat_eq_of_toNat (by omega)
    rw [hx, hy, decodePairs, highValue, lowValue]
    simp only [ih h, Except.map, whole]

theorem toList_toLower (s : String) : s.toLower.toList = s.toList.map Char.toLower :=
  String.toList_map

/-- Digits read in any mix of cases. -/
theorem ofText_of_toLower {s : String} {bs : List UInt8} (h : s.toLower = toText bs) :
    ofText s = .ok bs := by
  have digits : s.toList.map Char.toLower = encode bs := by
    rw [← toList_toLower, h, toText, String.toList_ofList]
  have read := decodePairs_of_map_toLower digits 0
  have even := length_of_decodePairs read
  rw [ofText, decode, Utf8.bytes, if_pos (by omega), read]

/-! ### What is written -/

theorem toLower_hexadecimal {n : Nat} (h : n < 16) :
    (Digit.hexadecimal n).toLower = Digit.hexadecimal n := by
  have all : ∀ m : Fin 16, (Digit.hexadecimal m.val).toLower = Digit.hexadecimal m.val := by decide
  exact all ⟨n, h⟩

theorem map_toLower_encode (bs : List UInt8) : (encode bs).map Char.toLower = encode bs := by
  rw [encode, List.map_flatMap]
  congr 1
  funext b
  have hb := b.toNat_lt
  rw [pair, List.map_cons, List.map_singleton, toLower_hexadecimal (by omega),
    toLower_hexadecimal (by omega)]

theorem isDigit_of_mem_encode {bs : List UInt8} {c : Char} (h : c ∈ encode bs) : IsDigit c := by
  obtain ⟨b, -, hc⟩ := List.mem_flatMap.1 h
  have hb := b.toNat_lt
  simp only [pair, List.mem_cons, List.not_mem_nil, or_false] at hc
  rw [isDigit_iff]
  rcases hc with rfl | rfl
  · rw [Digit.hexadecimal?_hexadecimal (by omega)]
    rfl
  · rw [Digit.hexadecimal?_hexadecimal (by omega)]
    rfl

/-- A digit is written in one way, up to its case. -/
theorem toLower_of_value? {b : UInt8} {n : Nat} (h : value? b = some n) :
    n < 16 ∧ (Digit.ofByte b).toLower = Digit.hexadecimal n := by
  have ascii : (Digit.ofByte b).toNat < 0x80 := by
    rw [toNat_ofByte]
    exact lt_of_isSome_value? (by rw [h]; rfl)
  apply Utf8.of_ascii (fun c => ∀ n ∈ Digit.hexadecimal? c,
    n < 16 ∧ c.toLower = Digit.hexadecimal n) _ ascii n h
  decide

theorem map_toLower_of_decodePairs {index : Nat} {digits bs : List UInt8}
    (h : decodePairs index digits = .ok bs) :
    (digits.map Digit.ofByte).map Char.toLower = encode bs := by
  fun_induction decodePairs index digits generalizing bs with
  | case1 => cases h; rfl
  | case2 => cases h
  | case3 => cases h
  | case4 => cases h
  | case5 index high low rest x y hx hy ih =>
    obtain ⟨cs, hcs, rfl⟩ := map_eq_ok_iff.1 h
    obtain ⟨hx16, hhigh⟩ := toLower_of_value? hx
    obtain ⟨hy16, hlow⟩ := toLower_of_value? hy
    have whole := Utf8.toNat_ofNat_of_lt (show x * 16 + y < 256 by omega)
    have h1 : (x * 16 + y) / 16 = x := by omega
    have h2 : (x * 16 + y) % 16 = y := by omega
    rw [encode, List.flatMap_cons, pair, whole, h1, h2, ← encode, ← ih hcs, ← hhigh, ← hlow]
    rfl

/-- The digits that read as some bytes are those written for them, in any mix of cases. -/
theorem decode_eq_ok_iff {digits bs : List UInt8} :
    decode digits = .ok bs ↔ (digits.map Digit.ofByte).map Char.toLower = encode bs := by
  constructor
  · intro h
    exact map_toLower_of_decodePairs (decodePairs_of_decode h)
  · intro h
    have ascii : ∀ d ∈ digits, d.toNat < 0x80 := by
      intro d hd
      have digit : IsDigit (Digit.ofByte d).toLower :=
        isDigit_of_mem_encode (h ▸ List.mem_map_of_mem (List.mem_map_of_mem hd))
      rw [isDigit_iff, hexadecimal?_toLower] at digit
      exact lt_of_isSome_value? digit
    have read := decodePairs_of_map_toLower h 0
    rw [Utf8.encode_map_ofByte ascii] at read
    have even := length_of_decodePairs read
    rw [decode, if_pos (by omega), read]

/-- What is written reads back. -/
theorem ofText_toText (bs : List UInt8) : ofText (toText bs) = .ok bs := by
  apply ofText_of_toLower
  rw [← String.toList_inj, toList_toLower, toText, String.toList_ofList, map_toLower_encode]

end TxInspect.Hex
