import TxInspect.Proofs.Number.Hexadecimal

/-!
# The case of digits

Two texts that state the same bytes in hexadecimal (`SameBytes`) are the same but for the case of
their letters (`SameBytes.toLower_eq`).  They also state the same number, and are the same amount,
count and nonce.
-/

namespace TxInspect.Hex

variable {s t : String}

theorem toLower_of_ofText {bs : List UInt8} (h : ofText s = .ok bs) : s.toLower = toText bs := by
  have chars : (Utf8.bytes s).map Digit.ofByte = s.toList := by
    rw [← Utf8.decodeLossy_of_ascii (lt_of_ofText h), Utf8.bytes, Utf8.decodeLossy_encode]
  have digits := decode_eq_ok_iff.1 h
  rw [chars] at digits
  rw [← String.toList_inj, toList_toLower, toText, String.toList_ofList, digits]

theorem isRun_of_map_toLower {cs ds : List Char} (h : cs.map Char.toLower = ds.map Char.toLower)
    (run : IsRun cs) : IsRun ds := by
  have length := congrArg List.length h
  rw [List.length_map, List.length_map] at length
  refine ⟨length ▸ run.1, fun d hd => ?_⟩
  have lower : d.toLower ∈ cs.map Char.toLower := h ▸ List.mem_map_of_mem hd
  obtain ⟨c, hc, same⟩ := List.mem_map.1 lower
  rw [isDigit_iff, ← hexadecimal?_toLower, ← same, hexadecimal?_toLower, ← isDigit_iff]
  exact run.2 c hc

/-- The texts state the same bytes in hexadecimal. -/
def SameBytes (s t : String) : Prop :=
  ∃ bs, ofText s = .ok bs ∧ ofText t = .ok bs

theorem sameBytes_of_toLower (h : s.toLower = t.toLower) (hs : isText s = true) :
    SameBytes s t := by
  obtain ⟨bs, hbs⟩ := Results.isOk_iff.1 hs
  exact ⟨bs, hbs, ofText_of_toLower (h ▸ toLower_of_ofText hbs)⟩

namespace SameBytes

theorem ofText_eq (h : SameBytes s t) : ofText s = ofText t := by
  obtain ⟨bs, hs, ht⟩ := h
  rw [hs, ht]

theorem isText_left (h : SameBytes s t) : isText s = true := by
  obtain ⟨bs, hs, -⟩ := h
  exact Results.isOk_iff.2 ⟨bs, hs⟩

theorem isText_right (h : SameBytes s t) : isText t = true := by
  obtain ⟨bs, -, ht⟩ := h
  exact Results.isOk_iff.2 ⟨bs, ht⟩

theorem toLower_eq (h : SameBytes s t) : s.toLower = t.toLower := by
  obtain ⟨bs, hs, ht⟩ := h
  rw [toLower_of_ofText hs, toLower_of_ofText ht]

theorem map_toLower_eq (h : SameBytes s t) :
    s.toList.map Char.toLower = t.toList.map Char.toLower := by
  rw [← toList_toLower, ← toList_toLower, h.toLower_eq]

theorem eq_empty_iff (h : SameBytes s t) : s = "" ↔ t = "" := by
  have length := congrArg List.length h.map_toLower_eq
  rw [List.length_map, List.length_map] at length
  rw [← String.toList_eq_nil_iff, ← String.toList_eq_nil_iff, ← List.length_eq_zero_iff,
    ← List.length_eq_zero_iff, length]

/-- The number of some digits does not depend on their case. -/
theorem number_eq (h : SameBytes s t) :
    Hexadecimal.number s.toList = Hexadecimal.number t.toList := by
  have lower : ∀ cs : List Char,
      Hexadecimal.number (cs.map Char.toLower) = Hexadecimal.number cs := by
    intro cs
    simp only [Hexadecimal.number, ← List.map_reverse, List.map_map]
    congr 2
    funext c
    exact congrArg (·.getD 0) (hexadecimal?_toLower c)
  rw [← lower s.toList, h.map_toLower_eq, lower]

theorem digits_left (h : SameBytes s t) : ∀ c ∈ s.toList, IsDigit c :=
  ((isText_iff s).1 h.isText_left).2

theorem digits_right (h : SameBytes s t) : ∀ c ∈ t.toList, IsDigit c :=
  ((isText_iff t).1 h.isText_right).2

theorem amount?_eq (h : SameBytes s t) : Hexadecimal.amount? s = Hexadecimal.amount? t := by
  rw [Hexadecimal.amount?_of_isDigit h.digits_left, Hexadecimal.amount?_of_isDigit h.digits_right,
    h.number_eq]
  simp only [h.eq_empty_iff]

theorem count?_eq (h : SameBytes s t) : Hexadecimal.count? s = Hexadecimal.count? t := by
  rw [Hexadecimal.count?_of_isDigit h.digits_left, Hexadecimal.count?_of_isDigit h.digits_right,
    h.number_eq]
  simp only [h.eq_empty_iff]

theorem nonce?_eq (h : SameBytes s t) : Hexadecimal.nonce? s = Hexadecimal.nonce? t := by
  rw [Hexadecimal.nonce?_of_isDigit h.digits_left, Hexadecimal.nonce?_of_isDigit h.digits_right,
    h.number_eq]

end SameBytes

end TxInspect.Hex
