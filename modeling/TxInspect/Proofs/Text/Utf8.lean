import Mathlib.Tactic.Common
import TxInspect.Number.Digit
import TxInspect.Text.Utf8

/-!
# UTF-8 there and back

What is written reads back (`decodeLossy_encode`, `decode?_encode`), and a text that reads without a
fault is what is written for its characters (`encode_of_decode?`).  Reading never makes more
characters than there are bytes (`length_decodeLossy_le`).
-/

namespace TxInspect.Utf8

theorem toNat_ofNat_of_isValid {n : Nat} (h : n.isValidChar) : (Char.ofNat n).toNat = n := by
  rw [Char.ofNat, dif_pos h]
  rfl

/-! ### First bytes -/

theorem first_one {b : UInt8} (h : b.toNat < 0x80) : first b = .whole (Char.ofNat b.toNat) := by
  simp [first, h]

theorem first_two {b : UInt8} (hl : 0xC2 ≤ b.toNat) (hh : b.toNat < 0xE0) :
    first b = .start ⟨b.toNat - 0xC0, 0x80, 0xBF, 0⟩ := by
  simp only [first]
  rw [if_neg (by omega), if_neg (by omega), if_pos hh]

theorem first_three {b : UInt8} (hl : 0xE0 ≤ b.toNat) (hh : b.toNat < 0xF0) :
    first b = .start ⟨b.toNat - 0xE0, if b.toNat = 0xE0 then 0xA0 else 0x80,
      if b.toNat = 0xED then 0x9F else 0xBF, 1⟩ := by
  simp only [first]
  rw [if_neg (by omega), if_neg (by omega), if_neg (by omega)]
  by_cases h0 : b.toNat = 0xE0
  · simp [h0]
  · by_cases hd : b.toNat = 0xED
    · simp [hd]
    · simp [h0, hd, hh]

theorem first_four {b : UInt8} (hl : 0xF0 ≤ b.toNat) (hh : b.toNat ≤ 0xF4) :
    first b = .start ⟨b.toNat - 0xF0, if b.toNat = 0xF0 then 0x90 else 0x80,
      if b.toNat = 0xF4 then 0x8F else 0xBF, 2⟩ := by
  simp only [first]
  rw [if_neg (by omega), if_neg (by omega), if_neg (by omega), if_neg (by omega),
    if_neg (by omega), if_neg (by omega)]
  by_cases h0 : b.toNat = 0xF0
  · simp [h0]
  · by_cases h4 : b.toNat = 0xF4
    · simp [h4]
    · simp [h0, h4, show b.toNat < 0xF4 by omega]

/-! ### Reading what is written -/

theorem scan_first {b : UInt8} {o : Open} (h : first b = .start o) (bs : List UInt8) :
    scan none (b :: bs) = scan (some o) bs := by
  simp [scan, h]

theorem scan_last {code low high : Nat} {b : UInt8} (hl : low ≤ b.toNat) (hh : b.toNat ≤ high)
    (bs : List UInt8) :
    scan (some ⟨code, low, high, 0⟩) (b :: bs) =
      some (Char.ofNat (code * 64 + (b.toNat - 0x80))) :: scan none bs := by
  simp [scan, hl, hh]

theorem scan_next {code low high more : Nat} {b : UInt8} (hl : low ≤ b.toNat)
    (hh : b.toNat ≤ high) (bs : List UInt8) :
    scan (some ⟨code, low, high, more + 1⟩) (b :: bs) =
      scan (some ⟨code * 64 + (b.toNat - 0x80), 0x80, 0xBF, more⟩) bs := by
  simp [scan, hl, hh]

theorem toNat_ofNat_of_lt {n : Nat} (h : n < 256) : (UInt8.ofNat n).toNat = n := by
  simp [Nat.mod_eq_of_lt h]

theorem toNat_continuation (n : Nat) : (UInt8.ofNat (n % 64 + 128)).toNat = n % 64 + 128 :=
  toNat_ofNat_of_lt (by omega)

theorem scan_one {v : Nat} (h : v < 0x80) (bs : List UInt8) :
    scan none (UInt8.ofNat v :: bs) = some (Char.ofNat v) :: scan none bs := by
  have hb := toNat_ofNat_of_lt (show v < 256 by omega)
  simp only [scan, first_one (hb.symm ▸ h), hb]

theorem scan_two {v : Nat} (hl : 0x80 ≤ v) (hh : v < 0x800) (bs : List UInt8) :
    scan none (UInt8.ofNat (v / 64 % 32 + 192) :: UInt8.ofNat (v % 64 + 128) :: bs) =
      some (Char.ofNat v) :: scan none bs := by
  have hb := toNat_ofNat_of_lt (show v / 64 % 32 + 192 < 256 by omega)
  have hc := toNat_continuation v
  have code : (v / 64 % 32 + 192 - 0xC0) * 64 + (v % 64 + 128 - 0x80) = v := by omega
  rw [scan_first (first_two (by omega) (by omega)), scan_last (by omega) (by omega), hb, hc, code]

theorem scan_three {v : Nat} (hl : 0x800 ≤ v) (hh : v < 0x10000)
    (hs : v < 0xD800 ∨ 0xDFFF < v) (bs : List UInt8) :
    scan none (UInt8.ofNat (v / 4096 % 16 + 224) :: UInt8.ofNat (v / 64 % 64 + 128)
      :: UInt8.ofNat (v % 64 + 128) :: bs) = some (Char.ofNat v) :: scan none bs := by
  have hb := toNat_ofNat_of_lt (show v / 4096 % 16 + 224 < 256 by omega)
  have hc := toNat_continuation (v / 64)
  have hd := toNat_continuation v
  have code : ((v / 4096 % 16 + 224 - 0xE0) * 64 + (v / 64 % 64 + 128 - 0x80)) * 64 +
      (v % 64 + 128 - 0x80) = v := by omega
  rw [scan_first (first_three (by omega) (by omega)), hb, scan_next (by split_ifs <;> omega)
    (by split_ifs <;> omega), scan_last (by omega) (by omega), hc, hd, code]

theorem scan_four {v : Nat} (hl : 0x10000 ≤ v) (hh : v < 0x110000) (bs : List UInt8) :
    scan none (UInt8.ofNat (v / 262144 % 8 + 240) :: UInt8.ofNat (v / 4096 % 64 + 128)
      :: UInt8.ofNat (v / 64 % 64 + 128) :: UInt8.ofNat (v % 64 + 128) :: bs) =
      some (Char.ofNat v) :: scan none bs := by
  have hb := toNat_ofNat_of_lt (show v / 262144 % 8 + 240 < 256 by omega)
  have hc := toNat_continuation (v / 4096)
  have hd := toNat_continuation (v / 64)
  have he := toNat_continuation v
  have code : (((v / 262144 % 8 + 240 - 0xF0) * 64 + (v / 4096 % 64 + 128 - 0x80)) * 64 +
      (v / 64 % 64 + 128 - 0x80)) * 64 + (v % 64 + 128 - 0x80) = v := by omega
  rw [scan_first (first_four (by omega) (by omega)), hb, scan_next (by split_ifs <;> omega)
    (by split_ifs <;> omega), scan_next (by omega) (by omega), scan_last (by omega) (by omega),
    hc, hd, he, code]

/-- The bytes of a character read as this character. -/
theorem scan_utf8EncodeChar (c : Char) (bs : List UInt8) :
    scan none (String.utf8EncodeChar c ++ bs) = some c :: scan none bs := by
  have valid : c.val.toNat < 0xD800 ∨ 0xDFFF < c.val.toNat ∧ c.val.toNat < 0x110000 := c.valid
  have back : Char.ofNat c.val.toNat = c := Char.ofNat_toNat c
  simp only [String.utf8EncodeChar]
  split_ifs with h1 h2 h3
  · simp only [List.cons_append, List.nil_append]
    rw [scan_one (by omega), back]
  · simp only [List.cons_append, List.nil_append]
    rw [scan_two (by omega) (by omega), back]
  · simp only [List.cons_append, List.nil_append]
    rw [scan_three (by omega) (by omega) (by omega), back]
  · simp only [List.cons_append, List.nil_append]
    rw [scan_four (by omega) (by omega), back]

theorem encode_cons (c : Char) (cs : List Char) :
    encode (c :: cs) = String.utf8EncodeChar c ++ encode cs := rfl

theorem encode_append (cs ds : List Char) : encode (cs ++ ds) = encode cs ++ encode ds :=
  List.flatMap_append

theorem encode_singleton (c : Char) : encode [c] = String.utf8EncodeChar c :=
  List.append_nil _

theorem scan_encode_append (cs : List Char) (bs : List UInt8) :
    scan none (encode cs ++ bs) = cs.map some ++ scan none bs := by
  induction cs with
  | nil => rfl
  | cons c cs ih =>
    rw [encode_cons, List.append_assoc, scan_utf8EncodeChar, ih]
    rfl

theorem scan_encode (cs : List Char) : scan none (encode cs) = cs.map some := by
  simpa [scan] using scan_encode_append cs []

theorem decodeLossy_encode (cs : List Char) : decodeLossy (encode cs) = cs := by
  simp [decodeLossy, scan_encode, Function.comp_def]

theorem decode?_encode (cs : List Char) : decode? (encode cs) = some cs := by
  rw [decode?, scan_encode]
  induction cs with
  | nil => rfl
  | cons c cs ih => simp only [List.map_cons, List.mapM_cons, id, ih]; rfl

theorem lossy_bytes (s : String) : lossy (bytes s) = s := by
  simp [lossy, bytes, decodeLossy_encode]

/-- The bytes are those of a text. -/
def IsText (bs : List UInt8) : Prop :=
  ∃ s, bytes s = bs

theorem isText_encode (cs : List Char) : IsText (encode cs) := by
  refine ⟨String.ofList cs, ?_⟩
  rw [bytes, String.toList_ofList]

/-- Nothing is replaced in the bytes of a text. -/
theorem bytes_lossy {bs : List UInt8} (h : IsText bs) : bytes (lossy bs) = bs := by
  obtain ⟨s, rfl⟩ := h
  rw [lossy_bytes]

/-! ### Writing what has been read -/

/-- The bytes `read` and any that may follow them in a character are the bytes of the character that
they state: `code` has been read, the next byte lies between `low` and `high`, and as many more
bytes follow that one. -/
def Spells (code low high : Nat) (read : List UInt8) : Nat → Prop
  | 0 => ∀ b : UInt8, low ≤ b.toNat → b.toNat ≤ high →
    String.utf8EncodeChar (Char.ofNat (code * 64 + (b.toNat - 0x80))) = read ++ [b]
  | more + 1 => ∀ b : UInt8, low ≤ b.toNat → b.toNat ≤ high →
    Spells (code * 64 + (b.toNat - 0x80)) 0x80 0xBF (read ++ [b]) more

theorem ofNat_eq_of_toNat {b : UInt8} {n : Nat} (h : n = b.toNat) : UInt8.ofNat n = b := by
  rw [h, UInt8.ofNat_toNat]

theorem utf8EncodeChar_ofNat {n : Nat} (h : n < 0xD800 ∨ 0xDFFF < n ∧ n < 0x110000) :
    String.utf8EncodeChar (Char.ofNat n) =
      if n ≤ 0x7F then [UInt8.ofNat n]
      else if n ≤ 0x7FF then [UInt8.ofNat (n / 64 % 32 + 192), UInt8.ofNat (n % 64 + 128)]
      else if n ≤ 0xFFFF then [UInt8.ofNat (n / 4096 % 16 + 224), UInt8.ofNat (n / 64 % 64 + 128),
        UInt8.ofNat (n % 64 + 128)]
      else [UInt8.ofNat (n / 262144 % 8 + 240), UInt8.ofNat (n / 4096 % 64 + 128),
        UInt8.ofNat (n / 64 % 64 + 128), UInt8.ofNat (n % 64 + 128)] := by
  have hn : (Char.ofNat n).val.toNat = n := toNat_ofNat_of_isValid h
  simp only [String.utf8EncodeChar, hn]

theorem spells_two {b : UInt8} (hl : 0xC2 ≤ b.toNat) (hh : b.toNat < 0xE0) :
    Spells (b.toNat - 0xC0) 0x80 0xBF [b] 0 := by
  intro c hc hc'
  rw [utf8EncodeChar_ofNat (by omega), if_neg (by omega), if_pos (by omega),
    ofNat_eq_of_toNat (b := b) (by omega), ofNat_eq_of_toNat (b := c) (by omega)]
  rfl

theorem spells_three {b : UInt8} (hl : 0xE0 ≤ b.toNat) (hh : b.toNat < 0xF0) :
    Spells (b.toNat - 0xE0) (if b.toNat = 0xE0 then 0xA0 else 0x80)
      (if b.toNat = 0xED then 0x9F else 0xBF) [b] 1 := by
  intro c hc hc' d hd hd'
  split_ifs at hc hc' <;>
  · rw [utf8EncodeChar_ofNat (by omega), if_neg (by omega), if_neg (by omega), if_pos (by omega),
      ofNat_eq_of_toNat (b := b) (by omega), ofNat_eq_of_toNat (b := c) (by omega),
      ofNat_eq_of_toNat (b := d) (by omega)]
    rfl

theorem spells_four {b : UInt8} (hl : 0xF0 ≤ b.toNat) (hh : b.toNat ≤ 0xF4) :
    Spells (b.toNat - 0xF0) (if b.toNat = 0xF0 then 0x90 else 0x80)
      (if b.toNat = 0xF4 then 0x8F else 0xBF) [b] 2 := by
  intro c hc hc' d hd hd' e he he'
  split_ifs at hc hc' <;>
  · rw [utf8EncodeChar_ofNat (by omega), if_neg (by omega), if_neg (by omega), if_neg (by omega),
      ofNat_eq_of_toNat (b := b) (by omega), ofNat_eq_of_toNat (b := c) (by omega),
      ofNat_eq_of_toNat (b := d) (by omega), ofNat_eq_of_toNat (b := e) (by omega)]
    rfl

/-- Every first byte of a longer character, with what it leaves open. -/
theorem first_eq_start {b : UInt8} {o : Open} (h : first b = .start o) :
    (0xC2 ≤ b.toNat ∧ b.toNat < 0xE0 ∧ o = ⟨b.toNat - 0xC0, 0x80, 0xBF, 0⟩) ∨
    (0xE0 ≤ b.toNat ∧ b.toNat < 0xF0 ∧ o = ⟨b.toNat - 0xE0, if b.toNat = 0xE0 then 0xA0 else 0x80,
      if b.toNat = 0xED then 0x9F else 0xBF, 1⟩) ∨
    (0xF0 ≤ b.toNat ∧ b.toNat ≤ 0xF4 ∧ o = ⟨b.toNat - 0xF0, if b.toNat = 0xF0 then 0x90 else 0x80,
      if b.toNat = 0xF4 then 0x8F else 0xBF, 2⟩) := by
  by_cases h1 : b.toNat < 0x80
  · simp [first_one h1] at h
  by_cases h2 : b.toNat < 0xE0
  · by_cases h2' : 0xC2 ≤ b.toNat
    · rw [first_two h2' h2, First.start.injEq] at h
      exact Or.inl ⟨h2', h2, h.symm⟩
    · simp [first, h1, show b.toNat < 0xC2 by omega] at h
  by_cases h3 : b.toNat < 0xF0
  · rw [first_three (by omega) h3, First.start.injEq] at h
    exact Or.inr (Or.inl ⟨by omega, h3, h.symm⟩)
  by_cases h4 : b.toNat ≤ 0xF4
  · rw [first_four (by omega) h4, First.start.injEq] at h
    exact Or.inr (Or.inr ⟨by omega, h4, h.symm⟩)
  · simp only [first] at h
    rw [if_neg h1, if_neg (by omega), if_neg h2, if_neg (by omega), if_neg (by omega), if_neg h3,
      if_neg (by omega), if_neg (by omega), if_neg (by omega)] at h
    cases h

theorem spells_of_first {b : UInt8} {o : Open} (h : first b = .start o) :
    Spells o.code o.low o.high [b] o.more := by
  obtain ⟨hl, hh, rfl⟩ | ⟨hl, hh, rfl⟩ | ⟨hl, hh, rfl⟩ := first_eq_start h
  · exact spells_two hl hh
  · exact spells_three hl hh
  · exact spells_four hl hh

theorem eq_map_some_of_mapM {l : List (Option Char)} {cs : List Char}
    (h : l.mapM id = some cs) : l = cs.map some := by
  induction l generalizing cs with
  | nil => cases h; rfl
  | cons x l ih =>
    rw [List.mapM_cons] at h
    obtain ⟨c, hc, h⟩ := Option.bind_eq_some_iff.1 h
    obtain ⟨cs', hcs, h⟩ := Option.bind_eq_some_iff.1 h
    cases h
    rw [ih hcs, show x = some c from hc]
    rfl

/-- What has been read of a character before the bytes of a scan. -/
def ReadBefore : Option Open → List UInt8 → Prop
  | none, read => read = []
  | some o, read => Spells o.code o.low o.high read o.more

theorem utf8EncodeChar_of_first {b : UInt8} {c : Char} (h : first b = .whole c) :
    String.utf8EncodeChar c = [b] := by
  by_cases h1 : b.toNat < 0x80
  · rw [first_one h1, First.whole.injEq] at h
    rw [← h, utf8EncodeChar_ofNat (by omega), if_pos (by omega), UInt8.ofNat_toNat]
  · simp only [first, if_neg h1] at h
    split_ifs at h

/-- The characters of a scan without faults are written as the bytes that it went over. -/
theorem encode_of_scan {o : Option Open} {bs read : List UInt8} {cs : List Char}
    (h : scan o bs = cs.map some) (before : ReadBefore o read) : encode cs = read ++ bs := by
  fun_induction scan o bs generalizing cs read with
  | case1 =>
    cases cs with
    | nil => simp [show read = [] from before, encode]
    | cons => simp at h
  | case2 o => cases cs <;> simp at h
  | case3 b bs c hb ih =>
    cases cs with
    | nil => simp at h
    | cons d ds =>
      rw [List.map_cons, List.cons.injEq, Option.some.injEq] at h
      obtain ⟨rfl, h⟩ := h
      rw [encode_cons, utf8EncodeChar_of_first hb, ih h rfl, show read = [] from before]
      rfl
  | case4 b bs o hb ih =>
    rw [ih h (spells_of_first hb), show read = [] from before]
    rfl
  | case5 b bs hb ih => cases cs <;> simp at h
  | case6 o b bs hin _ hmore =>
    rename_i ih
    cases cs with
    | nil => simp at h
    | cons d ds =>
      rw [List.map_cons, List.cons.injEq, Option.some.injEq] at h
      obtain ⟨rfl, h⟩ := h
      have spelt : Spells o.code o.low o.high read o.more := before
      rw [hmore] at spelt
      rw [encode_cons, spelt b hin.1 hin.2, ih h rfl]
      simp
  | case7 o b bs hin _ more hmore =>
    rename_i ih
    have spelt : Spells o.code o.low o.high read o.more := before
    rw [hmore] at spelt
    rw [ih h (spelt b hin.1 hin.2), List.append_assoc]
    rfl
  | case8 => cases cs <;> simp at h
  | case9 => cases cs <;> simp at h
  | case10 => cases cs <;> simp at h

theorem encode_of_decode? {bs : List UInt8} {cs : List Char} (h : decode? bs = some cs) :
    encode cs = bs :=
  encode_of_scan (eq_map_some_of_mapM h) rfl

theorem bytes_of_text? {bs : List UInt8} {s : String} (h : text? bs = some s) : bytes s = bs := by
  obtain ⟨cs, hcs, rfl⟩ := Option.map_eq_some_iff.1 h
  rw [bytes, String.toList_ofList, encode_of_decode? hcs]

/-! ### Lengths -/

theorem length_scan_le (o : Option Open) (bs : List UInt8) :
    (scan o bs).length ≤ bs.length + if o.isSome then 1 else 0 := by
  fun_induction scan o bs <;> simp_all <;> omega

/-- No text has more characters than bytes. -/
theorem length_decodeLossy_le (bs : List UInt8) : (decodeLossy bs).length ≤ bs.length := by
  simpa [decodeLossy] using length_scan_le none bs

/-! ### ASCII -/

theorem utf8EncodeChar_of_lt {c : Char} (h : c.toNat < 0x80) :
    String.utf8EncodeChar c = [UInt8.ofNat c.toNat] := by
  have h' : c.val.toNat ≤ 0x7F := Nat.le_of_lt_succ h
  simp only [String.utf8EncodeChar, if_pos h']
  rfl

theorem le_of_mem_utf8EncodeChar {c : Char} (h : 0x80 ≤ c.toNat) {b : UInt8}
    (hb : b ∈ String.utf8EncodeChar c) : 0x80 ≤ b.toNat := by
  have h' : ¬ c.val.toNat ≤ 0x7F := Nat.not_le_of_lt h
  simp only [String.utf8EncodeChar, if_neg h'] at hb
  -- Every byte is a number below 256 with its highest bit set.
  split_ifs at hb <;> simp only [List.mem_cons, List.not_mem_nil, or_false] at hb
  · rcases hb with rfl | rfl <;> rw [toNat_ofNat_of_lt (by omega)] <;> omega
  · rcases hb with rfl | rfl | rfl <;> rw [toNat_ofNat_of_lt (by omega)] <;> omega
  · rcases hb with rfl | rfl | rfl | rfl <;> rw [toNat_ofNat_of_lt (by omega)] <;> omega

theorem lt_of_utf8EncodeChar {c : Char} (h : ∀ b ∈ String.utf8EncodeChar c, b.toNat < 0x80) :
    c.toNat < 0x80 := by
  by_contra hc
  obtain ⟨b, hb⟩ := List.exists_mem_of_ne_nil _ (String.utf8EncodeChar_ne_nil (c := c))
  have low := h b hb
  have high := le_of_mem_utf8EncodeChar (Nat.le_of_not_lt hc) hb
  omega

theorem mem_encode {c : Char} {cs : List Char} {b : UInt8} (hb : b ∈ String.utf8EncodeChar c)
    (hc : c ∈ cs) : b ∈ encode cs :=
  List.mem_flatMap.2 ⟨c, hc, hb⟩

/-- A text whose bytes are ASCII has one byte for each character. -/
theorem encode_of_ascii {cs : List Char} (h : ∀ b ∈ encode cs, b.toNat < 0x80) :
    encode cs = cs.map fun c => UInt8.ofNat c.toNat := by
  induction cs with
  | nil => rfl
  | cons c cs ih =>
    have hc : c.toNat < 0x80 := lt_of_utf8EncodeChar fun b hb => h b (mem_encode hb (by simp))
    rw [encode_cons] at h ⊢
    rw [utf8EncodeChar_of_lt hc, ih fun b hb => h b (List.mem_append_right _ hb)]
    rfl

/-- What holds of the first 128 characters holds of every ASCII character. -/
theorem of_ascii (P : Char → Prop) (h : ∀ n : Fin 128, P (Char.ofNat n)) {c : Char}
    (hc : c.toNat < 128) : P c := by
  have := h ⟨c.toNat, hc⟩
  rwa [Char.ofNat_toNat] at this

theorem encode_of_lt {cs : List Char} (h : ∀ c ∈ cs, c.toNat < 128) :
    encode cs = cs.map fun c => UInt8.ofNat c.toNat := by
  apply encode_of_ascii
  intro b hb
  obtain ⟨c, hc, hb⟩ := List.mem_flatMap.1 hb
  have ascii := h c hc
  rw [utf8EncodeChar_of_lt ascii, List.mem_singleton] at hb
  rwa [hb, toNat_ofNat_of_lt (by omega)]

theorem length_encode_of_lt {cs : List Char} (h : ∀ c ∈ cs, c.toNat < 128) :
    (encode cs).length = cs.length := by
  rw [encode_of_lt h, List.length_map]

theorem encode_map_ofByte {bs : List UInt8} (h : ∀ b ∈ bs, b.toNat < 0x80) :
    encode (bs.map Digit.ofByte) = bs := by
  induction bs with
  | nil => rfl
  | cons b bs ih =>
    have hb : b.toNat < 0x80 := h b List.mem_cons_self
    have hc : (Digit.ofByte b).toNat = b.toNat := toNat_ofNat_of_isValid (Or.inl (by omega))
    rw [List.map_cons, encode_cons, utf8EncodeChar_of_lt (hc.symm ▸ hb), hc, UInt8.ofNat_toNat,
      ih fun d hd => h d (List.mem_cons_of_mem b hd)]
    rfl

end TxInspect.Utf8
