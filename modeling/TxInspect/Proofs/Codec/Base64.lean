import Mathlib.Tactic.Common
import TxInspect.Codec.Base64
import TxInspect.Proofs.Codec.Hex

/-!
# Base64 texts

Reading accepts exactly what writing produces: `decode_encode` and `encode_of_decode`, and for texts
`ofText_toText` and `bytes_of_ofText`.  So no text states more bytes than it has
(`length_le_of_ofText`).
-/

namespace TxInspect.Base64

open Results

/-! ### Symbols and their values -/

theorem value?_symbol {v : Nat} (h : v < 64) : value? (symbol v) = some v := by
  have all : ∀ m : Fin 64, value? (symbol m.val) = some m.val := by decide
  exact all ⟨v, h⟩

theorem symbol_ne_pad {v : Nat} (h : v < 64) : symbol v ≠ pad := by
  have all : ∀ m : Fin 64, symbol m.val ≠ pad := by decide
  exact all ⟨v, h⟩

theorem symbol_lt {v : Nat} (h : v < 64) : (symbol v).toNat < 0x80 := by
  have all : ∀ m : Fin 64, (symbol m.val).toNat < 0x80 := by decide
  exact all ⟨v, h⟩

theorem symbol_of_value? {b : UInt8} {v : Nat} (h : value? b = some v) :
    v < 64 ∧ symbol v = b := by
  have hb := b.toNat_lt
  simp only [value?] at h
  split_ifs at h <;> simp only [Option.some.injEq] at h <;> subst h
  · refine ⟨by omega, ?_⟩
    rw [symbol, if_pos (by omega)]
    exact Utf8.ofNat_eq_of_toNat (by omega)
  · refine ⟨by omega, ?_⟩
    rw [symbol, if_neg (by omega), if_pos (by omega)]
    exact Utf8.ofNat_eq_of_toNat (by omega)
  · refine ⟨by omega, ?_⟩
    rw [symbol, if_neg (by omega), if_neg (by omega), if_pos (by omega)]
    exact Utf8.ofNat_eq_of_toNat (by omega)
  · exact ⟨by omega, UInt8.toNat_inj.1 (by simp [symbol, *])⟩
  · exact ⟨by omega, UInt8.toNat_inj.1 (by simp [symbol, *])⟩

theorem symbolAt_symbol (index : Nat) {v : Nat} (h : v < 64) :
    symbolAt index (symbol v) = .ok v := by
  rw [symbolAt, value?_symbol h]

theorem symbolAt_eq_ok {index : Nat} {b : UInt8} {v : Nat} (h : symbolAt index b = .ok v) :
    v < 64 ∧ symbol v = b := by
  rw [symbolAt] at h
  split at h
  · next w hw =>
    cases h
    exact symbol_of_value? hw
  · cases h

/-! ### Groups of three bytes -/

theorem threeBytes_of_bytes (a b c : UInt8) :
    threeBytes (a.toNat / 4) (a.toNat % 4 * 16 + b.toNat / 16)
      (b.toNat % 16 * 4 + c.toNat / 64) (c.toNat % 64) = [a, b, c] := by
  have ha := a.toNat_lt
  have hb := b.toNat_lt
  have hc := c.toNat_lt
  rw [threeBytes, Utf8.ofNat_eq_of_toNat (b := a) (by omega),
    Utf8.ofNat_eq_of_toNat (b := b) (by omega), Utf8.ofNat_eq_of_toNat (b := c) (by omega)]

theorem encode_threeBytes {w x y z : Nat} (hw : w < 64) (hx : x < 64) (hy : y < 64) (hz : z < 64)
    (more : List UInt8) :
    encode (threeBytes w x y z ++ more) =
      symbol w :: symbol x :: symbol y :: symbol z :: encode more := by
  have ha := Utf8.toNat_ofNat_of_lt (show w * 4 + x / 16 < 256 by omega)
  have hb := Utf8.toNat_ofNat_of_lt (show x % 16 * 16 + y / 4 < 256 by omega)
  have hc := Utf8.toNat_ofNat_of_lt (show y % 4 * 64 + z < 256 by omega)
  have h1 : (w * 4 + x / 16) / 4 = w := by omega
  have h2 : (w * 4 + x / 16) % 4 * 16 + (x % 16 * 16 + y / 4) / 16 = x := by omega
  have h3 : (x % 16 * 16 + y / 4) % 16 * 4 + (y % 4 * 64 + z) / 64 = y := by omega
  have h4 : (y % 4 * 64 + z) % 64 = z := by omega
  rw [threeBytes, List.cons_append, List.cons_append, List.cons_append, List.nil_append, encode,
    ha, hb, hc, h1, h2, h3, h4]

theorem decodeGroups_cons (index : Nat) {w x y z : Nat} (hw : w < 64) (hx : x < 64) (hy : y < 64)
    (hz : z < 64) {rest more : List UInt8} (hne : rest ≠ [])
    (h : decodeGroups (index + 4) rest = .ok more) :
    decodeGroups index (symbol w :: symbol x :: symbol y :: symbol z :: rest) =
      .ok (threeBytes w x y z ++ more) := by
  cases rest with
  | nil => exact absurd rfl hne
  | cons e rest =>
    rw [decodeGroups, symbolAt_symbol _ hw, symbolAt_symbol _ hx, symbolAt_symbol _ hy,
      symbolAt_symbol _ hz, h]
    rfl

/-! ### The last group -/

theorem lastGroup_symbol (index place : Nat) {v : Nat} (h : v < 64) (bs : List UInt8) :
    lastGroup index place (symbol v :: bs) =
      (lastGroup index (place + 1) bs).map fun (vs, count) => (v :: vs, count) := by
  rw [lastGroup, if_neg (symbol_ne_pad h), value?_symbol h]

theorem decodeGroups_pads (index : Nat) {w x : Nat} (hw : w < 64) (hx : x < 64) :
    decodeGroups index [symbol w, symbol x, pad, pad] = lastBytes index ([w, x], 2) := by
  simp only [decodeGroups, lastGroup_symbol _ _ hw, lastGroup_symbol _ _ hx]
  rfl

theorem decodeGroups_pad (index : Nat) {w x y : Nat} (hw : w < 64) (hx : x < 64) (hy : y < 64) :
    decodeGroups index [symbol w, symbol x, symbol y, pad] = lastBytes index ([w, x, y], 1) := by
  simp only [decodeGroups, lastGroup_symbol _ _ hw, lastGroup_symbol _ _ hx,
    lastGroup_symbol _ _ hy]
  rfl

theorem decodeGroups_four (index : Nat) {w x y z : Nat} (hw : w < 64) (hx : x < 64) (hy : y < 64)
    (hz : z < 64) :
    decodeGroups index [symbol w, symbol x, symbol y, symbol z] = .ok (threeBytes w x y z) := by
  simp only [decodeGroups, lastGroup_symbol _ _ hw, lastGroup_symbol _ _ hx,
    lastGroup_symbol _ _ hy, lastGroup_symbol _ _ hz]
  rfl

/-! ### Reading what is written -/

theorem encode_ne_nil {bs : List UInt8} (h : bs ≠ []) : encode bs ≠ [] := by
  fun_cases encode bs <;> simp_all

theorem decodeGroups_encode (index : Nat) (bs : List UInt8) :
    decodeGroups index (encode bs) = .ok bs := by
  fun_induction encode bs generalizing index with
  | case1 => rfl
  | case2 a =>
    have ha := a.toNat_lt
    have clean : a.toNat % 4 * 16 % 16 = 0 := by omega
    rw [decodeGroups_pads _ (by omega) (by omega), lastBytes, if_neg (by decide),
      if_neg (by simp [clean]), Utf8.ofNat_eq_of_toNat (b := a) (by omega)]
  | case3 a b =>
    have ha := a.toNat_lt
    have hb := b.toNat_lt
    have clean : b.toNat % 16 * 4 % 4 = 0 := by omega
    rw [decodeGroups_pad _ (by omega) (by omega) (by omega), lastBytes, if_neg (by decide),
      if_neg (by simp [clean]), Utf8.ofNat_eq_of_toNat (b := a) (by omega),
      Utf8.ofNat_eq_of_toNat (b := b) (by omega)]
  | case4 a b c rest ih =>
    have ha := a.toNat_lt
    have hb := b.toNat_lt
    have hc := c.toNat_lt
    by_cases hrest : rest = []
    · subst hrest
      rw [encode, decodeGroups_four _ (by omega) (by omega) (by omega) (by omega),
        threeBytes_of_bytes]
    · rw [decodeGroups_cons _ (by omega) (by omega) (by omega) (by omega) (encode_ne_nil hrest)
        (ih _), threeBytes_of_bytes]
      rfl

theorem length_encode (bs : List UInt8) : (encode bs).length = 4 * ((bs.length + 2) / 3) := by
  fun_induction encode bs with
  | case1 => rfl
  | case2 => simp
  | case3 => simp
  | case4 a b c rest ih =>
    simp only [List.length_cons, ih]
    omega

theorem strayEnd_of_length {bs : List UInt8} (h : bs.length % 4 ≠ 1) : strayEnd bs = none := by
  rw [strayEnd, if_neg h]

/-- What is written reads back. -/
theorem decode_encode (bs : List UInt8) : decode (encode bs) = .ok bs := by
  have aligned : (encode bs).length % 4 ≠ 1 := by
    rw [length_encode]
    omega
  rw [decode, strayEnd_of_length aligned]
  exact decodeGroups_encode 0 bs

/-! ### Writing what has been read -/

theorem eq_of_paddingAfter {first count : Nat} {bs : List UInt8}
    (h : paddingAfter first bs = .ok count) : bs = List.replicate count pad := by
  induction bs generalizing count with
  | nil => cases h; rfl
  | cons b bs ih =>
    rw [paddingAfter] at h
    split_ifs at h with hb
    obtain ⟨n, hn, rfl⟩ := map_eq_ok_iff.1 h
    rw [List.replicate_succ, ← ih hn, hb]

theorem eq_of_lastGroup {index place count : Nat} {bs : List UInt8} {vs : List Nat}
    (h : lastGroup index place bs = .ok (vs, count)) :
    (∀ v ∈ vs, v < 64) ∧ bs = vs.map symbol ++ List.replicate count pad := by
  induction bs generalizing place vs with
  | nil => cases h; simp
  | cons b bs ih =>
    rw [lastGroup] at h
    split_ifs at h with hb hplace
    · obtain ⟨n, hn, heq⟩ := map_eq_ok_iff.1 h
      cases heq
      simp [eq_of_paddingAfter hn, List.replicate_succ, hb]
    · split at h
      · cases h
      · next v hv =>
        obtain ⟨⟨ws, n⟩, hws, heq⟩ := map_eq_ok_iff.1 h
        cases heq
        obtain ⟨hlt, rfl⟩ := ih hws
        obtain ⟨hv64, hsym⟩ := symbol_of_value? hv
        refine ⟨?_, by simp [hsym]⟩
        simpa [hv64] using hlt

theorem encode_of_two {w x : Nat} (hw : w < 64) (hx : x < 64) (clean : x % 16 = 0) :
    encode [UInt8.ofNat (w * 4 + x / 16)] = [symbol w, symbol x, pad, pad] := by
  have ha := Utf8.toNat_ofNat_of_lt (show w * 4 + x / 16 < 256 by omega)
  have h1 : (w * 4 + x / 16) / 4 = w := by omega
  have h2 : (w * 4 + x / 16) % 4 * 16 = x := by omega
  rw [encode, ha, h1, h2]

theorem encode_of_three {w x y : Nat} (hw : w < 64) (hx : x < 64) (hy : y < 64)
    (clean : y % 4 = 0) :
    encode [UInt8.ofNat (w * 4 + x / 16), UInt8.ofNat (x % 16 * 16 + y / 4)] =
      [symbol w, symbol x, symbol y, pad] := by
  have ha := Utf8.toNat_ofNat_of_lt (show w * 4 + x / 16 < 256 by omega)
  have hb := Utf8.toNat_ofNat_of_lt (show x % 16 * 16 + y / 4 < 256 by omega)
  have h1 : (w * 4 + x / 16) / 4 = w := by omega
  have h2 : (w * 4 + x / 16) % 4 * 16 + (x % 16 * 16 + y / 4) / 16 = x := by omega
  have h3 : (x % 16 * 16 + y / 4) % 16 * 4 = y := by omega
  rw [encode, ha, hb, h1, h2, h3]

/-- The bytes of a last group of at most four signs are written as this group. -/
theorem encode_of_lastBytes {index count : Nat} {vs : List Nat} {out : List UInt8}
    (hv : ∀ v ∈ vs, v < 64) (hlen : vs.length + count ≤ 4)
    (h : lastBytes index (vs, count) = .ok out) :
    encode out = vs.map symbol ++ List.replicate count pad := by
  rw [lastBytes.eq_def] at h
  split at h
  · next w x padding heq =>
    cases heq
    simp only [List.mem_cons, forall_eq_or_imp] at hv
    split_ifs at h with hpad clean
    cases h
    rw [encode_of_two hv.1 hv.2.1 (not_not.1 clean), not_not.1 hpad]
    rfl
  · next w x y padding heq =>
    cases heq
    simp only [List.mem_cons, forall_eq_or_imp] at hv
    split_ifs at h with hpad clean
    cases h
    rw [encode_of_three hv.1 hv.2.1 hv.2.2.1 (not_not.1 clean), not_not.1 hpad]
    rfl
  · next w x y z padding heq =>
    cases heq
    simp only [List.mem_cons, forall_eq_or_imp] at hv
    cases h
    have none : count = 0 := by
      simp only [List.length_cons, List.length_nil] at hlen
      omega
    have := encode_threeBytes hv.1 hv.2.1 hv.2.2.1 hv.2.2.2.1 []
    rw [List.append_nil] at this
    rw [this, none]
    rfl
  · cases h

theorem encode_of_decodeGroups {index : Nat} {bs out : List UInt8}
    (h : decodeGroups index bs = .ok out) : encode out = bs := by
  fun_induction decodeGroups index bs generalizing out with
  | case1 => cases h; rfl
  | case2 index a b c d e rest ih =>
    obtain ⟨w, ha, h⟩ := bind_eq_ok_iff.1 h
    obtain ⟨x, hb, h⟩ := bind_eq_ok_iff.1 h
    obtain ⟨y, hc, h⟩ := bind_eq_ok_iff.1 h
    obtain ⟨z, hd, h⟩ := bind_eq_ok_iff.1 h
    obtain ⟨more, hmore, h⟩ := bind_eq_ok_iff.1 h
    cases h
    obtain ⟨hw, rfl⟩ := symbolAt_eq_ok ha
    obtain ⟨hx, rfl⟩ := symbolAt_eq_ok hb
    obtain ⟨hy, rfl⟩ := symbolAt_eq_ok hc
    obtain ⟨hz, rfl⟩ := symbolAt_eq_ok hd
    rw [encode_threeBytes hw hx hy hz, ih hmore]
  | case3 index bs hne hlong =>
    obtain ⟨⟨vs, count⟩, hgroup, hbytes⟩ := bind_eq_ok_iff.1 h
    obtain ⟨hv, hbs⟩ := eq_of_lastGroup hgroup
    have short : bs.length ≤ 4 := by
      match bs, hlong with
      | [], _ | [_], _ | [_, _], _ | [_, _, _], _ | [_, _, _, _], _ => simp
      | a :: b :: c :: d :: e :: rest, hlong => exact (hlong a b c d e rest rfl).elim
    rw [hbs]
    refine encode_of_lastBytes hv ?_ hbytes
    simpa [hbs] using short

/-- What reads is what is written for the bytes that it states. -/
theorem encode_of_decode {bs out : List UInt8} (h : decode bs = .ok out) : encode out = bs := by
  rw [decode] at h
  split at h
  · cases h
  · exact encode_of_decodeGroups h

/-- The symbols that read as some bytes are those written for them, and no others. -/
theorem decode_eq_ok_iff {bs out : List UInt8} : decode bs = .ok out ↔ bs = encode out :=
  ⟨fun h => (encode_of_decode h).symm, fun h => h ▸ decode_encode out⟩

/-! ### Texts -/

theorem lt_of_mem_encode {bs : List UInt8} : ∀ b ∈ encode bs, b.toNat < 0x80 := by
  have hpad : pad.toNat < 0x80 := by decide
  fun_induction encode bs with
  | case1 => simp
  | case2 a =>
    have ha := a.toNat_lt
    simp only [List.mem_cons, List.not_mem_nil, or_false]
    rintro b (rfl | rfl | rfl | rfl)
    exacts [symbol_lt (by omega), symbol_lt (by omega), hpad, hpad]
  | case3 a b =>
    have ha := a.toNat_lt
    have hb := b.toNat_lt
    simp only [List.mem_cons, List.not_mem_nil, or_false]
    rintro c (rfl | rfl | rfl | rfl)
    exacts [symbol_lt (by omega), symbol_lt (by omega), symbol_lt (by omega), hpad]
  | case4 a b c rest ih =>
    have ha := a.toNat_lt
    have hb := b.toNat_lt
    have hc := c.toNat_lt
    simp only [List.mem_cons]
    rintro d (rfl | rfl | rfl | rfl | hd)
    exacts [symbol_lt (by omega), symbol_lt (by omega), symbol_lt (by omega),
      symbol_lt (by omega), ih d hd]

theorem bytes_toText (bs : List UInt8) : Utf8.bytes (toText bs) = encode bs := by
  rw [Utf8.bytes, toText, String.toList_ofList, Utf8.encode_map_ofByte lt_of_mem_encode]

theorem ofText_toText (bs : List UInt8) : ofText (toText bs) = .ok bs := by
  rw [ofText, bytes_toText, decode_encode]

theorem bytes_of_ofText {s : String} {bs : List UInt8} (h : ofText s = .ok bs) :
    Utf8.bytes s = encode bs :=
  (encode_of_decode h).symm

/-- No text states more bytes than it has. -/
theorem length_le_of_ofText {s : String} {bs : List UInt8} (h : ofText s = .ok bs) :
    bs.length ≤ (Utf8.bytes s).length := by
  rw [bytes_of_ofText h, length_encode]
  omega

end TxInspect.Base64
