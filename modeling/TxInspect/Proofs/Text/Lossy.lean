import Mathlib.Tactic.Common
import TxInspect.Proofs.Text.Pieces
import TxInspect.Proofs.Text.Utf8

/-!
# Reading bytes with faults

An ASCII byte never belongs to a character of more bytes, whatever stands before it
(`decodeLossy_append`), and no faults make an ASCII character (`mem_of_mem_decodeLossy`).  So bytes
that are cut at an ASCII byte and then read are the text that is read and then cut
(`pieces_decodeLossy`), and a piece of this text that is ASCII has been read without faults
(`encode_decodeLossy_of_ascii`).
-/

namespace TxInspect.Utf8

/-! ### Open characters -/

/-- Some bytes of a longer character have been read, and no ASCII byte goes on with it. -/
def Open.IsPartial (o : Open) : Prop :=
  0x80 ≤ o.low ∧ ∃ read, read ≠ [] ∧ Spells o.code o.low o.high read o.more

/-- What is open in the middle of a scan is part of a longer character. -/
def Reached : Option Open → Prop
  | none => True
  | some o => o.IsPartial

theorem low_of_first {b : UInt8} {o : Open} (h : first b = .start o) : 0x80 ≤ o.low := by
  obtain ⟨-, -, rfl⟩ | ⟨-, -, rfl⟩ | ⟨-, -, rfl⟩ := first_eq_start h
  · exact Nat.le_refl _
  · dsimp only
    split_ifs <;> decide
  · dsimp only
    split_ifs <;> decide

theorem isPartial_of_first {b : UInt8} {o : Open} (h : first b = .start o) : o.IsPartial :=
  ⟨low_of_first h, [b], List.cons_ne_nil b [], spells_of_first h⟩

section Step

variable {o : Open} {b : UInt8} {more : Nat}

theorem Open.IsPartial.next (h : o.IsPartial) (hmore : o.more = more + 1)
    (inside : o.low ≤ b.toNat ∧ b.toNat ≤ o.high) :
    Open.IsPartial ⟨o.code * 64 + (b.toNat - 0x80), 0x80, 0xBF, more⟩ := by
  obtain ⟨-, read, -, spells⟩ := h
  rw [hmore] at spells
  exact ⟨Nat.le_refl _, read ++ [b], by simp, spells b inside.1 inside.2⟩

/-- A longer character is not ASCII. -/
theorem Open.IsPartial.le_last (h : o.IsPartial) (hmore : o.more = 0)
    (inside : o.low ≤ b.toNat ∧ b.toNat ≤ o.high) :
    0x80 ≤ (Char.ofNat (o.code * 64 + (b.toNat - 0x80))).toNat := by
  obtain ⟨-, read, nonempty, spells⟩ := h
  rw [hmore] at spells
  by_contra ascii
  have one := utf8EncodeChar_of_lt (Nat.lt_of_not_le ascii)
  rw [spells b inside.1 inside.2] at one
  have sizes := congrArg List.length one
  rw [List.length_append, List.length_singleton, List.length_singleton] at sizes
  exact nonempty (List.length_eq_zero_iff.1 (by omega))

end Step

/-! ### ASCII bytes -/

/-- An ASCII byte ends what is open and is a character of its own. -/
theorem scan_append_ascii {b : UInt8} (ascii : b.toNat < 0x80) (bs : List UInt8) {o : Option Open}
    {read : List UInt8} (reached : Reached o) :
    scan o (read ++ b :: bs) = scan o read ++ some (Char.ofNat b.toNat) :: scan none bs := by
  have whole := first_one ascii
  fun_induction scan o read with
  | case1 => simp [scan, whole]
  | case2 o =>
    have outside : ¬ (o.low ≤ b.toNat ∧ b.toNat ≤ o.high) := by
      have := reached.1
      omega
    simp [scan, whole, outside]
  | case3 d ds c hd ih => simp [scan, hd, ih trivial]
  | case4 d ds o hd ih => simp [scan, hd, ih (isPartial_of_first hd)]
  | case5 d ds hd ih => simp [scan, hd, ih trivial]
  | case6 o d ds inside code hmore ih => simp [scan, inside, hmore, code, ih trivial]
  | case7 o d ds inside code more hmore ih =>
    simp [scan, inside, hmore, code, ih (reached.next hmore inside)]
  | case8 o d ds outside c hd ih => simp [scan, outside, hd, ih trivial]
  | case9 o d ds outside p hd ih => simp [scan, outside, hd, ih (isPartial_of_first hd)]
  | case10 o d ds outside hd ih => simp [scan, outside, hd, ih trivial]

/-- An ASCII character that is read stands among the bytes. -/
theorem mem_of_mem_scan {c : Char} (ascii : c.toNat < 0x80) {o : Option Open} {bs : List UInt8}
    (reached : Reached o) (h : some c ∈ scan o bs) : UInt8.ofNat c.toNat ∈ bs := by
  have whole : ∀ {b : UInt8}, first b = .whole c → UInt8.ofNat c.toNat = b := by
    intro b hb
    have one := utf8EncodeChar_of_first hb
    rw [utf8EncodeChar_of_lt ascii] at one
    exact List.head_eq_of_cons_eq one
  fun_induction scan o bs with
  | case1 => simp at h
  | case2 => simp at h
  | case3 b bs d hb ih =>
    rcases List.mem_cons.1 h with h | h
    · cases h
      exact whole hb ▸ List.mem_cons_self
    · exact List.mem_cons_of_mem _ (ih trivial h)
  | case4 b bs o hb ih => exact List.mem_cons_of_mem _ (ih (isPartial_of_first hb) h)
  | case5 b bs hb ih =>
    exact List.mem_cons_of_mem _ (ih trivial (by simpa using h))
  | case6 o b bs inside code hmore ih =>
    rcases List.mem_cons.1 h with h | h
    · have long := reached.le_last hmore inside
      rw [← Option.some.inj h] at long
      omega
    · exact List.mem_cons_of_mem _ (ih trivial h)
  | case7 o b bs inside code more hmore ih =>
    exact List.mem_cons_of_mem _ (ih (reached.next hmore inside) h)
  | case8 o b bs outside d hb ih =>
    rcases List.mem_cons.1 ((List.mem_cons.1 h).resolve_left (Option.some_ne_none c)) with h | h
    · cases h
      exact whole hb ▸ List.mem_cons_self
    · exact List.mem_cons_of_mem _ (ih trivial h)
  | case9 o b bs outside p hb ih =>
    have h := (List.mem_cons.1 h).resolve_left (Option.some_ne_none c)
    exact List.mem_cons_of_mem _ (ih (isPartial_of_first hb) h)
  | case10 o b bs outside hb ih =>
    exact List.mem_cons_of_mem _ (ih trivial (by simpa using h))

theorem le_replacement : 0x80 ≤ replacement.toNat := by
  decide

theorem decodeLossy_append {b : UInt8} (ascii : b.toNat < 0x80) (read bs : List UInt8) :
    decodeLossy (read ++ b :: bs) = decodeLossy read ++ Char.ofNat b.toNat :: decodeLossy bs := by
  rw [decodeLossy, scan_append_ascii ascii bs (o := none) trivial, List.map_append]
  rfl

theorem mem_of_mem_decodeLossy {c : Char} (ascii : c.toNat < 0x80) {bs : List UInt8}
    (h : c ∈ decodeLossy bs) : UInt8.ofNat c.toNat ∈ bs := by
  obtain ⟨x, hx, hc⟩ := List.mem_map.1 h
  cases x with
  | none =>
    have := le_replacement
    rw [Option.getD_none] at hc
    rw [hc] at this
    omega
  | some d =>
    rw [Option.getD_some] at hc
    exact mem_of_mem_scan ascii (o := none) trivial (hc ▸ hx)

/-- Bytes whose text is ASCII are the bytes of this text. -/
theorem encode_decodeLossy_of_ascii {bs : List UInt8}
    (ascii : ∀ c ∈ decodeLossy bs, c.toNat < 0x80) : encode (decodeLossy bs) = bs := by
  have whole : ∀ x ∈ scan none bs, x = some (x.getD replacement) := by
    intro x hx
    cases x with
    | none =>
      have := ascii replacement (List.mem_map.2 ⟨none, hx, rfl⟩)
      have := le_replacement
      omega
    | some c => rfl
  have text : scan none bs = (decodeLossy bs).map some := by
    rw [decodeLossy, List.map_map]
    exact (List.map_id _).symm.trans (List.map_congr_left whole)
  have nothing : ReadBefore none [] := rfl
  exact encode_of_scan text nothing

/-- No faults make an ASCII text: the bytes that read as one are its bytes. -/
theorem lossy_eq_iff_of_ascii {bs : List UInt8} {s : String}
    (ascii : ∀ c ∈ s.toList, c.toNat < 0x80) : lossy bs = s ↔ bs = bytes s := by
  constructor
  · rintro rfl
    rw [lossy, String.toList_ofList] at ascii
    rw [bytes, lossy, String.toList_ofList, encode_decodeLossy_of_ascii ascii]
  · rintro rfl
    exact lossy_bytes s

/-- ASCII bytes read as the characters with their code points. -/
theorem decodeLossy_of_ascii {bs : List UInt8} (ascii : ∀ b ∈ bs, b.toNat < 0x80) :
    decodeLossy bs = bs.map Digit.ofByte := by
  have bytes := encode_map_ofByte ascii
  have text := decodeLossy_encode (bs.map Digit.ofByte)
  rwa [bytes] at text

/-! ### Pieces -/

section Pieces

variable {sep : UInt8}

theorem decodeLossy_joined (ascii : sep.toNat < 0x80) (p : List UInt8) (ps : List (List UInt8)) :
    decodeLossy (Text.joined sep (p :: ps)) =
      Text.joined (Char.ofNat sep.toNat) ((p :: ps).map decodeLossy) := by
  induction ps generalizing p with
  | nil => rfl
  | cons q ps ih =>
    rw [Text.joined, decodeLossy_append ascii, ih]
    rfl

/-- Reading and cutting at an ASCII byte may change places. -/
theorem pieces_decodeLossy (sep : UInt8) (ascii : sep.toNat < 0x80) (bs : List UInt8) :
    Text.pieces (Char.ofNat sep.toNat) (decodeLossy bs) = (Text.pieces sep bs).map decodeLossy := by
  have same : (Char.ofNat sep.toNat).toNat = sep.toNat :=
    toNat_ofNat_of_isValid (Or.inl (by omega))
  have free : ∀ q ∈ (Text.pieces sep bs).map decodeLossy, Char.ofNat sep.toNat ∉ q := by
    refine List.forall_mem_map.2 fun p hp hmem => ?_
    have := mem_of_mem_decodeLossy (same.symm ▸ ascii) hmem
    rw [same, UInt8.ofNat_toNat] at this
    exact Text.notMem_of_mem_pieces hp this
  have whole := Text.joined_pieces sep bs
  cases hpieces : Text.pieces sep bs with
  | nil => exact absurd hpieces (Text.pieces_ne_nil sep bs)
  | cons p ps =>
    rw [hpieces] at whole free
    rw [← whole, decodeLossy_joined ascii]
    exact Text.pieces_joined free

end Pieces

end TxInspect.Utf8
