import Mathlib.Tactic.Common
import TxInspect.Proofs.Codec.Bech32.Checksum
import TxInspect.Proofs.Codec.Bech32.Groups
import TxInspect.Proofs.Text.Utf8

/-!
# Texts and what they state

When a text can be taken apart (`parts?_eq_some_iff`), and what it is in small letters
(`map_small_of_parts?`).  A text that has been written states what it has been written for
(`decode_encode`), and capital letters state the same (`decode_toUpper`).  What a text states can be
written (`exists_encode_of_decode`).  This gives the text in small letters again exactly if the text
has the plain checksum and no bits to spare (`encode_eq_map_small_iff`).
-/

namespace TxInspect.Bech32

open Results

/-! ### Characters -/

theorem toNat_lt_of_isHrpChar {c : Char} (h : isHrpChar c = true) : c.toNat < 128 := by
  simp only [isHrpChar, Bool.and_eq_true, decide_eq_true_eq] at h
  omega

theorem toNat_lt_of_isCapital {c : Char} (h : isCapital c = true) : c.toNat < 128 := by
  simp only [isCapital, Bool.and_eq_true, decide_eq_true_eq, Char.reduceToNat] at h
  omega

theorem small_of_not_isCapital {c : Char} (h : isCapital c = false) : small c = c := by
  rw [small, h, if_neg Bool.false_ne_true]

theorem isCapital_small (c : Char) : isCapital (small c) = false := by
  by_cases h : isCapital c = true
  · apply Utf8.of_ascii (fun c => isCapital (small c) = false) (by decide)
    exact toNat_lt_of_isCapital h
  · rw [Bool.not_eq_true] at h
    rw [small_of_not_isCapital h, h]

theorem isHrpChar_small {c : Char} (h : isHrpChar c = true) : isHrpChar (small c) = true := by
  apply Utf8.of_ascii (fun c => isHrpChar c = true → isHrpChar (small c) = true) (by decide)
  · exact toNat_lt_of_isHrpChar h
  · exact h

theorem isHrpChar_toUpper {c : Char} (h : isHrpChar c = true) : isHrpChar c.toUpper = true := by
  apply Utf8.of_ascii (fun c => isHrpChar c = true → isHrpChar c.toUpper = true) (by decide)
  · exact toNat_lt_of_isHrpChar h
  · exact h

theorem isSmall_toUpper {c : Char} (h : c.toNat < 128) : isSmall c.toUpper = false :=
  Utf8.of_ascii (fun c => isSmall c.toUpper = false) (by decide) h

theorem small_toUpper {c : Char} (h : c.toNat < 128) : small c.toUpper = small c :=
  Utf8.of_ascii (fun c => small c.toUpper = small c) (by decide) h

theorem mixesCase_of_no_capital {cs : List Char} (h : ∀ c ∈ cs, isCapital c = false) :
    mixesCase cs = false := by
  have none : cs.any isCapital = false := List.any_eq_false.2 fun c hc => by simp [h c hc]
  rw [mixesCase, none, Bool.false_and]

theorem mixesCase_of_no_small {cs : List Char} (h : ∀ c ∈ cs, isSmall c = false) :
    mixesCase cs = false := by
  have none : cs.any isSmall = false := List.any_eq_false.2 fun c hc => by simp [h c hc]
  rw [mixesCase, none, Bool.and_false]

/-! ### Symbols -/

/-- What holds of the first 32 symbols holds of every symbol. -/
theorem of_symbols (P : Symbol → Prop) (h : ∀ n : Fin 32, P (BitVec.ofNat 5 n)) (s : Symbol) :
    P s := by
  have := h ⟨s.toNat, s.isLt⟩
  rwa [BitVec.ofNat_toNat, BitVec.setWidth_eq] at this

theorem symbol?_symbolChar (s : Symbol) : symbol? (symbolChar s) = some s :=
  of_symbols (fun s => symbol? (symbolChar s) = some s) (by decide) s

theorem isCapital_symbolChar (s : Symbol) : isCapital (symbolChar s) = false :=
  of_symbols (fun s => isCapital (symbolChar s) = false) (by decide) s

theorem toNat_symbolChar_lt (s : Symbol) : (symbolChar s).toNat < 128 :=
  of_symbols (fun s => (symbolChar s).toNat < 128) (by decide) s

theorem symbolChar_injective : Function.Injective symbolChar := by
  intro s t h
  have := symbol?_symbolChar s
  rwa [h, symbol?_symbolChar, Option.some.injEq, eq_comm] at this

theorem symbol?_separator : symbol? separator = none := by
  decide

/-- The character of a symbol that has been read is the character read, in small. -/
theorem symbolChar_of_symbol? {c : Char} {s : Symbol} (h : symbol? c = some s) :
    symbolChar s = small c := by
  obtain ⟨i, hi, rfl⟩ := Option.map_eq_some_iff.1 h
  obtain ⟨hlt, hget, -⟩ := List.idxOf?_eq_some_iff.1 hi
  have size : i < 2 ^ 5 := hlt
  rw [symbolChar, BitVec.toNat_ofNat, Nat.mod_eq_of_lt size, List.getD_eq_getElem?_getD,
    List.getElem?_eq_getElem hlt, Option.getD_some, hget]

theorem toNat_lt_of_symbol? {c : Char} {s : Symbol} (h : symbol? c = some s) : c.toNat < 128 := by
  by_cases hc : isCapital c = true
  · exact toNat_lt_of_isCapital hc
  · rw [Bool.not_eq_true] at hc
    have := symbolChar_of_symbol? h
    rw [small_of_not_isCapital hc] at this
    rw [← this]
    exact toNat_symbolChar_lt s

theorem symbol?_toUpper {c : Char} (h : c.toNat < 128) : symbol? c.toUpper = symbol? c := by
  rw [symbol?, symbol?, small_toUpper h]

theorem mapM_symbol?_cons {c : Char} {tail : List Char} {symbols : List Symbol} :
    (c :: tail).mapM symbol? = some symbols ↔
      ∃ s more, symbol? c = some s ∧ tail.mapM symbol? = some more ∧ s :: more = symbols := by
  rw [List.mapM_cons]
  constructor
  · intro h
    obtain ⟨s, hs, h⟩ := Option.bind_eq_some_iff.1 h
    obtain ⟨more, hmore, h⟩ := Option.bind_eq_some_iff.1 h
    exact ⟨s, more, hs, hmore, Option.some.inj h⟩
  · rintro ⟨s, more, hs, hmore, rfl⟩
    rw [hs, hmore]
    rfl

theorem mapM_symbol?_map (symbols : List Symbol) :
    (symbols.map symbolChar).mapM symbol? = some symbols := by
  induction symbols with
  | nil => rfl
  | cons s symbols ih =>
    exact mapM_symbol?_cons.2 ⟨s, symbols, symbol?_symbolChar s, ih, rfl⟩

section Tail

variable {tail : List Char} {symbols : List Symbol}

theorem map_symbolChar_of_mapM (h : tail.mapM symbol? = some symbols) :
    symbols.map symbolChar = tail.map small := by
  induction tail generalizing symbols with
  | nil => cases h; rfl
  | cons c tail ih =>
    obtain ⟨s, more, hs, hmore, rfl⟩ := mapM_symbol?_cons.1 h
    rw [List.map_cons, List.map_cons, symbolChar_of_symbol? hs, ih hmore]

theorem exists_symbol?_of_mapM (h : tail.mapM symbol? = some symbols) :
    ∀ c ∈ tail, ∃ s, symbol? c = some s := by
  induction tail generalizing symbols with
  | nil => simp
  | cons c tail ih =>
    obtain ⟨s, more, hs, hmore, rfl⟩ := mapM_symbol?_cons.1 h
    exact List.forall_mem_cons.2 ⟨⟨s, hs⟩, ih hmore⟩

theorem separator_notMem_of_mapM (h : tail.mapM symbol? = some symbols) : separator ∉ tail := by
  intro hmem
  obtain ⟨s, hs⟩ := exists_symbol?_of_mapM h separator hmem
  rw [symbol?_separator] at hs
  cases hs

theorem mapM_symbol?_map_toUpper (h : tail.mapM symbol? = some symbols) :
    (tail.map Char.toUpper).mapM symbol? = some symbols := by
  induction tail generalizing symbols with
  | nil => exact h
  | cons c tail ih =>
    obtain ⟨s, more, hs, hmore, rfl⟩ := mapM_symbol?_cons.1 h
    have upper := (symbol?_toUpper (toNat_lt_of_symbol? hs)).trans hs
    exact mapM_symbol?_cons.2 ⟨s, more, upper, ih hmore, rfl⟩

end Tail

/-! ### The last separator -/

theorem split?_append (hrp : List Char) {tail : List Char} (h : separator ∉ tail) :
    split? (hrp ++ separator :: tail) = some (hrp, tail) := by
  have other : ∀ c ∈ tail.reverse, decide (c ≠ separator) = true := by
    intro c hc
    exact decide_eq_true fun heq => h (heq ▸ List.mem_reverse.1 hc)
  have back : (hrp ++ separator :: tail).reverse = tail.reverse ++ separator :: hrp.reverse := by
    simp
  rw [split?, back, List.dropWhile_append_of_pos other, List.takeWhile_append_of_pos other]
  simp

theorem eq_of_split? {cs hrp tail : List Char} (h : split? cs = some (hrp, tail)) :
    cs = hrp ++ separator :: tail := by
  have whole := List.takeWhile_append_dropWhile (p := fun c => decide (c ≠ separator))
    (l := cs.reverse)
  have first := List.head?_dropWhile_not (fun c => decide (c ≠ separator)) cs.reverse
  simp only [split?] at h
  split at h
  · cases h
  · next c front hfront =>
    cases h
    rw [hfront] at whole first
    have hc : c = separator := by simpa using first
    have back := congrArg List.reverse whole
    rw [List.reverse_reverse, hc] at back
    refine back.symm.trans ?_
    simp

/-! ### Human-readable parts -/

theorem checkHrpChars_eq_ok_iff (cs : List Char) :
    checkHrpChars cs = .ok () ↔ ∀ c ∈ cs, isHrpChar c = true := by
  induction cs with
  | nil => simp [checkHrpChars]
  | cons c cs ih =>
    rw [checkHrpChars, List.forall_mem_cons, ← ih]
    split_ifs with foreign printable
    · have : isHrpChar c ≠ true := fun h => Nat.not_lt.2 foreign (toNat_lt_of_isHrpChar h)
      simp [this]
    · simp [printable]
    · simp [printable]

/-- What may be written before the separator. -/
theorem checkHrp_eq_ok_iff (hrp : List Char) :
    checkHrp hrp = .ok () ↔ hrp ≠ [] ∧ hrp.length ≤ maxHrpLength ∧
      (∀ c ∈ hrp, isHrpChar c = true) ∧ mixesCase hrp = false := by
  have steps : checkHrp hrp = .ok () ↔ hrp ≠ [] ∧ (Utf8.encode hrp).length ≤ maxHrpLength ∧
      checkHrpChars hrp = .ok () ∧ mixesCase hrp = false := by
    have unit : (∃ u, checkHrpChars hrp = .ok u) ↔ checkHrpChars hrp = .ok () :=
      ⟨fun ⟨_, h⟩ => h, fun h => ⟨(), h⟩⟩
    simp only [checkHrp]
    split_ifs with empty long mixed
    · simp [empty]
    · simp [Nat.not_le.2 long]
    · simp [bind_eq_ok_iff, mixed]
    · simp [bind_eq_ok_iff, unit, empty, Nat.le_of_not_lt long, mixed]
  have bytes : (∀ c ∈ hrp, isHrpChar c = true) → (Utf8.encode hrp).length = hrp.length :=
    fun h => Utf8.length_encode_of_lt fun c hc => toNat_lt_of_isHrpChar (h c hc)
  rw [steps, checkHrpChars_eq_ok_iff]
  constructor
  · rintro ⟨nonempty, short, printable, pure⟩
    exact ⟨nonempty, bytes printable ▸ short, printable, pure⟩
  · rintro ⟨nonempty, short, printable, pure⟩
    exact ⟨nonempty, (bytes printable).symm ▸ short, printable, pure⟩

section Hrp

variable {hrp : List Char}

theorem toNat_lt_of_checkHrp (h : checkHrp hrp = .ok ()) : ∀ c ∈ hrp, c.toNat < 128 := by
  obtain ⟨-, -, printable, -⟩ := (checkHrp_eq_ok_iff hrp).1 h
  exact fun c hc => toNat_lt_of_isHrpChar (printable c hc)

theorem checkHrp_map_small (h : checkHrp hrp = .ok ()) : checkHrp (hrp.map small) = .ok () := by
  obtain ⟨nonempty, short, printable, -⟩ := (checkHrp_eq_ok_iff hrp).1 h
  refine (checkHrp_eq_ok_iff _).2 ⟨?_, ?_, ?_, ?_⟩
  · exact fun empty => nonempty (List.map_eq_nil_iff.1 empty)
  · rwa [List.length_map]
  · exact List.forall_mem_map.2 fun c hc => isHrpChar_small (printable c hc)
  · apply mixesCase_of_no_capital
    exact List.forall_mem_map.2 fun c _ => isCapital_small c

theorem checkHrp_map_toUpper (h : checkHrp hrp = .ok ()) :
    checkHrp (hrp.map Char.toUpper) = .ok () := by
  obtain ⟨nonempty, short, printable, -⟩ := (checkHrp_eq_ok_iff hrp).1 h
  refine (checkHrp_eq_ok_iff _).2 ⟨?_, ?_, ?_, ?_⟩
  · exact fun empty => nonempty (List.map_eq_nil_iff.1 empty)
  · rwa [List.length_map]
  · exact List.forall_mem_map.2 fun c hc => isHrpChar_toUpper (printable c hc)
  · apply mixesCase_of_no_small
    exact List.forall_mem_map.2 fun c hc => isSmall_toUpper (toNat_lt_of_checkHrp h c hc)

end Hrp

/-! ### Texts taken apart -/

/-- A text is taken apart where it has been put together. -/
theorem parts?_eq_some_iff {cs : List Char} {p : Parts} :
    parts? cs = some p ↔ ∃ tail, cs = p.hrp ++ separator :: tail ∧
      tail.mapM symbol? = some p.symbols ∧ mixesCase cs = false ∧ checkHrp p.hrp = .ok () := by
  rw [parts?]
  constructor
  · intro h
    obtain ⟨⟨hrp, tail⟩, hsplit, h⟩ := Option.bind_eq_some_iff.1 h
    obtain ⟨symbols, hsymbols, h⟩ := Option.bind_eq_some_iff.1 h
    split_ifs at h with mixed
    split at h
    · next hhrp =>
      cases h
      exact ⟨tail, eq_of_split? hsplit, hsymbols, Bool.eq_false_iff.2 mixed, hhrp⟩
    · cases h
  · rintro ⟨tail, rfl, hsymbols, pure, hhrp⟩
    rw [split?_append p.hrp (separator_notMem_of_mapM hsymbols)]
    simp [hsymbols, pure, hhrp]

/-- The text of a human-readable part and symbols. -/
def spelled (hrp : List Char) (symbols : List Symbol) : List Char :=
  hrp ++ separator :: symbols.map symbolChar

theorem spelled_inj {hrp : List Char} {symbols more : List Symbol} :
    spelled hrp symbols = spelled hrp more ↔ symbols = more := by
  rw [spelled, spelled, List.append_cancel_left_eq, List.cons.injEq,
    List.map_inj_right symbolChar_injective]
  exact and_iff_right rfl

theorem parts?_spelled {hrp : List Char} (hhrp : checkHrp hrp = .ok ())
    (low : ∀ c ∈ hrp, isCapital c = false) (symbols : List Symbol) :
    parts? (spelled hrp symbols) = some ⟨hrp, symbols⟩ := by
  refine parts?_eq_some_iff.2 ⟨_, rfl, mapM_symbol?_map symbols, ?_, hhrp⟩
  apply mixesCase_of_no_capital
  intro c hc
  rcases List.mem_append.1 hc with hc | hc
  · exact low c hc
  rcases List.mem_cons.1 hc with rfl | hc
  · decide
  · obtain ⟨s, -, rfl⟩ := List.mem_map.1 hc
    exact isCapital_symbolChar s

section Parts

variable {cs : List Char} {p : Parts}

theorem length_of_parts? (h : parts? cs = some p) :
    cs.length = p.hrp.length + 1 + p.symbols.length := by
  obtain ⟨tail, rfl, hsymbols, -, -⟩ := parts?_eq_some_iff.1 h
  have tails := congrArg List.length (map_symbolChar_of_mapM hsymbols)
  simp only [List.length_map] at tails
  simp only [List.length_append, List.length_cons]
  omega

theorem toNat_lt_of_parts? (h : parts? cs = some p) : ∀ c ∈ cs, c.toNat < 128 := by
  obtain ⟨tail, rfl, hsymbols, -, hhrp⟩ := parts?_eq_some_iff.1 h
  intro c hc
  rcases List.mem_append.1 hc with hc | hc
  · exact toNat_lt_of_checkHrp hhrp c hc
  rcases List.mem_cons.1 hc with rfl | hc
  · decide
  · obtain ⟨s, hs⟩ := exists_symbol?_of_mapM hsymbols c hc
    exact toNat_lt_of_symbol? hs

/-- A text in small letters has the same symbols under the name. -/
theorem map_small_of_parts? (h : parts? cs = some p) :
    cs.map small = spelled p.name p.symbols := by
  obtain ⟨tail, rfl, hsymbols, -, -⟩ := parts?_eq_some_iff.1 h
  have sep : small separator = separator := by decide
  rw [List.map_append, List.map_cons, sep, spelled, map_symbolChar_of_mapM hsymbols, Parts.name]

/-- A text in capital letters has the same symbols. -/
theorem parts?_map_toUpper (h : parts? cs = some p) :
    parts? (cs.map Char.toUpper) = some ⟨p.hrp.map Char.toUpper, p.symbols⟩ := by
  have ascii := toNat_lt_of_parts? h
  obtain ⟨tail, rfl, hsymbols, -, hhrp⟩ := parts?_eq_some_iff.1 h
  have sep : separator.toUpper = separator := by decide
  refine parts?_eq_some_iff.2 ⟨tail.map Char.toUpper, ?_, mapM_symbol?_map_toUpper hsymbols, ?_,
    checkHrp_map_toUpper hhrp⟩
  · rw [List.map_append, List.map_cons, sep]
  · apply mixesCase_of_no_small
    exact List.forall_mem_map.2 fun c hc => isSmall_toUpper (ascii c hc)

/-- Capital letters name the same. -/
theorem name_map_toUpper (h : parts? cs = some p) :
    Parts.name ⟨p.hrp.map Char.toUpper, p.symbols⟩ = p.name := by
  obtain ⟨-, -, -, -, hhrp⟩ := parts?_eq_some_iff.1 h
  rw [Parts.name, Parts.name, List.map_map]
  exact List.map_congr_left fun c hc => small_toUpper (toNat_lt_of_checkHrp hhrp c hc)

end Parts

/-! ### Checksums -/

/-- The last symbols, where the checksum stands. -/
def Parts.last (p : Parts) : List Symbol :=
  p.symbols.drop (p.symbols.length - checksumSize)

theorem Parts.payload_append_last (p : Parts) : p.payload ++ p.last = p.symbols :=
  List.take_append_drop _ _

theorem Parts.hasChecksum_iff (variant : Variant) (p : Parts) :
    p.hasChecksum variant = true ↔
      checksumSize ≤ p.symbols.length ∧ p.last = checksum variant p.name p.payload := by
  rw [Parts.hasChecksum, Bool.and_eq_true, decide_eq_true_eq]
  refine and_congr_right fun long => ?_
  have size : p.last.length = checksumSize := by
    rw [Parts.last, List.length_drop]
    omega
  rw [← checked_append_iff variant p.name p.payload size, p.payload_append_last]

/-- The parts of a text that is written for some bytes. -/
theorem Parts.written (hrp : List Char) (bs : List UInt8) :
    Parts.payload ⟨hrp, ofBytes bs ++ checksum .plain hrp (ofBytes bs)⟩ = ofBytes bs ∧
      Parts.last ⟨hrp, ofBytes bs ++ checksum .plain hrp (ofBytes bs)⟩ =
        checksum .plain hrp (ofBytes bs) := by
  have size := length_checksum .plain hrp (ofBytes bs)
  constructor
  · rw [Parts.payload]
    simp [size]
  · rw [Parts.last]
    simp [size]

/-! ### Reading and writing -/

section ReadWrite

variable {hrp name cs text : List Char} {bs : List UInt8}

theorem encode_eq_ok (h : encode hrp bs = .ok text) :
    checkHrp hrp = .ok () ∧
      text = spelled hrp (ofBytes bs ++ checksum .plain hrp (ofBytes bs)) ∧
      text.length ≤ maxLength := by
  obtain ⟨_, hhrp, h⟩ := bind_eq_ok_iff.1 h
  dsimp only at h
  split_ifs at h with short
  cases h
  exact ⟨hhrp, rfl, short⟩

theorem decode_eq_ok_iff : decode cs = .ok (name, bs) ↔
    ∃ p, parts? cs = some p ∧ cs.length ≤ maxLength ∧
      (p.hasChecksum .plain = true ∨ p.hasChecksum .modified = true) ∧ p.name = name ∧
      toBytes p.payload = bs := by
  rw [decode]
  constructor
  · intro h
    split at h
    · cases h
    · next p hp =>
      split_ifs at h with ok
      cases h
      exact ⟨p, hp, ok.1, Bool.or_eq_true_iff.1 ok.2, rfl, rfl⟩
  · rintro ⟨p, hp, short, sum, rfl, rfl⟩
    rw [hp]
    simp [short, sum]

/-- A text that has been written under a human-readable part in small letters states this part and
the bytes. -/
theorem decode_encode (low : ∀ c ∈ hrp, isCapital c = false) (h : encode hrp bs = .ok text) :
    decode text = .ok (hrp, bs) := by
  obtain ⟨hhrp, rfl, short⟩ := encode_eq_ok h
  obtain ⟨payload, last⟩ := Parts.written hrp bs
  have name : hrp.map small = hrp :=
    (List.map_congr_left fun c hc => small_of_not_isCapital (low c hc)).trans (List.map_id hrp)
  refine decode_eq_ok_iff.2 ⟨_, parts?_spelled hhrp low _, short, Or.inl ?_, name, ?_⟩
  · rw [Parts.hasChecksum_iff, last, payload, Parts.name, name]
    exact ⟨by simp [length_checksum], rfl⟩
  · rw [payload, toBytes_ofBytes]

/-- A text in capital letters states what the text states. -/
theorem decode_toUpper (h : decode cs = .ok (name, bs)) :
    decode (cs.map Char.toUpper) = .ok (name, bs) := by
  obtain ⟨p, hp, short, sum, hname, hbytes⟩ := decode_eq_ok_iff.1 h
  have same := name_map_toUpper hp
  refine decode_eq_ok_iff.2 ⟨_, parts?_map_toUpper hp, ?_, ?_, same.trans hname, hbytes⟩
  · rwa [List.length_map]
  · simp only [Parts.hasChecksum, same] at sum ⊢
    exact sum

theorem le_length_of_hasChecksum {p : Parts}
    (h : p.hasChecksum .plain = true ∨ p.hasChecksum .modified = true) :
    checksumSize ≤ p.symbols.length := by
  rcases h with h | h
  · exact ((p.hasChecksum_iff _).1 h).1
  · exact ((p.hasChecksum_iff _).1 h).1

/-- What a text states can be written. -/
theorem exists_encode_of_decode (h : decode cs = .ok (name, bs)) :
    ∃ written, encode name bs = .ok written := by
  obtain ⟨p, hp, short, sum, rfl, rfl⟩ := decode_eq_ok_iff.1 h
  obtain ⟨-, -, -, -, hhrp⟩ := parts?_eq_some_iff.1 hp
  refine (encode_eq_ok_iff _ _).2 ⟨checkHrp_map_small hhrp, ?_⟩
  have whole := length_of_parts? hp
  have long := le_length_of_hasChecksum sum
  have payload : p.payload.length = p.symbols.length - checksumSize := by
    rw [Parts.payload, List.length_take]
    omega
  have size : checksumSize = 6 := rfl
  rw [textLength, Parts.name, List.length_map, length_toBytes, payload]
  omega

/-- What is written for the bytes that a text states is the text in small letters exactly if the
text has the plain checksum and its symbols have no bits to spare. -/
theorem encode_eq_map_small_iff {p : Parts} (hp : parts? cs = some p)
    (sum : p.hasChecksum .plain = true ∨ p.hasChecksum .modified = true)
    (h : encode p.name (toBytes p.payload) = .ok text) :
    text = cs.map small ↔ p.hasChecksum .plain = true ∧ IsFilled p.payload := by
  obtain ⟨-, rfl, -⟩ := encode_eq_ok h
  have long := le_length_of_hasChecksum sum
  have size : p.last.length = checksumSize := by
    rw [Parts.last, List.length_drop]
    omega
  rw [map_small_of_parts? hp, spelled_inj, ← ofBytes_toBytes_iff, p.hasChecksum_iff]
  constructor
  · intro h
    rw [← p.payload_append_last] at h
    obtain ⟨bytes, last⟩ := List.append_inj' h (size.symm ▸ length_checksum _ _ _)
    exact ⟨⟨long, by rw [← last, bytes]⟩, bytes⟩
  · rintro ⟨⟨-, last⟩, bytes⟩
    rw [bytes, ← last, p.payload_append_last]

end ReadWrite

end TxInspect.Bech32
