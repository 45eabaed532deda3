import Mathlib.Tactic.Common
import TxInspect.Proofs.Address.Validity

/-!
# Bytes cut into symbols and back

Every byte list comes back out of its symbols (`toBytes_ofBytes`).  The other way round some bits
may be left over (`leftover`), and symbols come back out of their bytes exactly if fewer than five
bits are left over and all of them are zero (`ofBytes_toBytes_iff`).
-/

namespace TxInspect.Bech32

/-! ### One group -/

theorem symbolBits_ofBits (a b c d e : Bool) :
    symbolBits (BitVec.ofBoolListBE [a, b, c, d, e]) = [a, b, c, d, e] := by
  simp only [symbolBits, BitVec.getMsbD_ofBoolListBE]
  rfl

theorem byteBits_ofBits (a b c d e f g h : Bool) :
    byteBits (UInt8.ofBitVec (BitVec.ofBoolListBE [a, b, c, d, e, f, g, h])) =
      [a, b, c, d, e, f, g, h] := by
  simp only [byteBits, BitVec.getMsbD_ofBoolListBE]
  rfl

theorem symbolsOfBits_symbolBits (s : Symbol) (bits : List Bool) :
    symbolsOfBits (symbolBits s ++ bits) = s :: symbolsOfBits bits := by
  have whole : BitVec.ofBoolListBE (symbolBits s) = s := by
    apply BitVec.eq_of_getMsbD_eq
    intro i hi
    rw [BitVec.getMsbD_ofBoolListBE]
    match i, hi with
    | 0, _ | 1, _ | 2, _ | 3, _ | 4, _ => rfl
  exact congrArg (· :: symbolsOfBits bits) whole

theorem bytesOfBits_byteBits (b : UInt8) (bits : List Bool) :
    bytesOfBits (byteBits b ++ bits) = b :: bytesOfBits bits := by
  have whole : BitVec.ofBoolListBE (byteBits b) = b.toBitVec := by
    apply BitVec.eq_of_getMsbD_eq
    intro i hi
    rw [BitVec.getMsbD_ofBoolListBE]
    match i, hi with
    | 0, _ | 1, _ | 2, _ | 3, _ | 4, _ | 5, _ | 6, _ | 7, _ => rfl
  exact congrArg (UInt8.ofBitVec · :: bytesOfBits bits) whole

/-! ### All groups -/

theorem symbolsOfBits_flatMap (symbols : List Symbol) :
    symbolsOfBits (symbols.flatMap symbolBits) = symbols := by
  induction symbols with
  | nil => rfl
  | cons s symbols ih => rw [List.flatMap_cons, symbolsOfBits_symbolBits, ih]

theorem bytesOfBits_append (bs : List UInt8) (bits : List Bool) :
    bytesOfBits (bs.flatMap byteBits ++ bits) = bs ++ bytesOfBits bits := by
  induction bs with
  | nil => rfl
  | cons b bs ih =>
    rw [List.flatMap_cons, List.append_assoc, bytesOfBits_byteBits, ih]
    rfl

theorem bytesOfBits_of_length_lt {bits : List Bool} (h : bits.length < 8) :
    bytesOfBits bits = [] := by
  fun_cases bytesOfBits bits with
  | case1 => simp only [List.length_cons] at h; omega
  | case2 => rfl

/-- How many zeros fill up the last symbol of so many bits. -/
def fillSize (bits : Nat) : Nat :=
  (5 - bits % 5) % 5

theorem flatMap_symbolsOfBits (bits : List Bool) :
    (symbolsOfBits bits).flatMap symbolBits =
      bits ++ List.replicate (fillSize bits.length) false := by
  fun_induction symbolsOfBits bits with
  | case1 a b c d e rest ih =>
    have same : fillSize (a :: b :: c :: d :: e :: rest).length = fillSize rest.length := by
      simp only [fillSize, List.length_cons]
      omega
    rw [List.flatMap_cons, ih, symbolBits_ofBits, same]
    rfl
  | case2 => rfl
  | case3 a => rw [List.flatMap_singleton, symbolBits_ofBits]; rfl
  | case4 a b => rw [List.flatMap_singleton, symbolBits_ofBits]; rfl
  | case5 a b c => rw [List.flatMap_singleton, symbolBits_ofBits]; rfl
  | case6 a b c d => rw [List.flatMap_singleton, symbolBits_ofBits]; rfl

theorem length_flatMap_symbolBits (symbols : List Symbol) :
    (symbols.flatMap symbolBits).length = 5 * symbols.length := by
  induction symbols with
  | nil => rfl
  | cons s symbols ih =>
    rw [List.flatMap_cons, List.length_append, ih, List.length_cons]
    simp only [symbolBits, List.length_cons, List.length_nil]
    omega

/-- Cutting bits into bytes keeps all bits but those at the end that make no byte. -/
theorem flatMap_bytesOfBits (bits : List Bool) :
    (bytesOfBits bits).flatMap byteBits = bits.take (8 * (bits.length / 8)) := by
  fun_induction bytesOfBits bits with
  | case1 a b c d e f g h rest ih =>
    have more : 8 * ((a :: b :: c :: d :: e :: f :: g :: h :: rest).length / 8) =
        8 * (rest.length / 8) + 8 := by
      simp only [List.length_cons]
      omega
    rw [List.flatMap_cons, ih, byteBits_ofBits, more]
    rfl
  | case2 bits short =>
    have : bits.length < 8 := by
      match bits, short with
      | [], _ | [_], _ | [_, _], _ | [_, _, _], _ | [_, _, _, _], _ | [_, _, _, _, _], _
      | [_, _, _, _, _, _], _ | [_, _, _, _, _, _, _], _ => simp
      | a :: b :: c :: d :: e :: f :: g :: h :: rest, short =>
        exact (short a b c d e f g h rest rfl).elim
    rw [Nat.div_eq_of_lt this]
    rfl

theorem length_toBytes (symbols : List Symbol) :
    (toBytes symbols).length = 5 * symbols.length / 8 := by
  have bits := congrArg List.length (flatMap_bytesOfBits (symbols.flatMap symbolBits))
  rw [length_flatMap_byteBits, List.length_take, length_flatMap_symbolBits] at bits
  rw [toBytes]
  omega

/-! ### There and back -/

theorem fillSize_lt (bits : Nat) : fillSize bits < 5 :=
  Nat.mod_lt _ (by decide)

/-- The symbols of some bytes state these bytes. -/
theorem toBytes_ofBytes (bs : List UInt8) : toBytes (ofBytes bs) = bs := by
  have none : bytesOfBits (List.replicate (fillSize (bs.flatMap byteBits).length) false) = [] := by
    apply bytesOfBits_of_length_lt
    rw [List.length_replicate]
    exact Nat.lt_trans (fillSize_lt _) (by decide)
  rw [toBytes, ofBytes, flatMap_symbolsOfBits, bytesOfBits_append, none, List.append_nil]

/-- The bits of some symbols that make no byte. -/
def leftover (symbols : List Symbol) : List Bool :=
  (symbols.flatMap symbolBits).drop (8 * (toBytes symbols).length)

/-- The symbols are written with no more bits than their bytes need: fewer than five bits make no
byte, and they are zero. -/
def IsFilled (symbols : List Symbol) : Prop :=
  (leftover symbols).length < 5 ∧ ∀ bit ∈ leftover symbols, bit = false

theorem byteBits_append_leftover (symbols : List Symbol) :
    (toBytes symbols).flatMap byteBits ++ leftover symbols = symbols.flatMap symbolBits := by
  rw [leftover, length_toBytes, toBytes, flatMap_bytesOfBits, length_flatMap_symbolBits,
    List.take_append_drop]

/-- Zeros that fill up the last symbol change no symbol. -/
theorem symbolsOfBits_append_fill (bits : List Bool) :
    symbolsOfBits (bits ++ List.replicate (fillSize bits.length) false) = symbolsOfBits bits := by
  rw [← flatMap_symbolsOfBits, symbolsOfBits_flatMap]

/-- The symbols of the bytes that some symbols state are these symbols exactly if they are filled up
with fewer than five zeros. -/
theorem ofBytes_toBytes_iff (symbols : List Symbol) :
    ofBytes (toBytes symbols) = symbols ↔ IsFilled symbols := by
  have whole := byteBits_append_leftover symbols
  rw [ofBytes]
  constructor
  · intro h
    have filled := flatMap_symbolsOfBits ((toBytes symbols).flatMap byteBits)
    rw [h, ← whole, List.append_cancel_left_eq] at filled
    rw [IsFilled, filled, List.length_replicate]
    exact ⟨fillSize_lt _, fun bit hbit => List.eq_of_mem_replicate hbit⟩
  · rintro ⟨short, zero⟩
    have zeros : leftover symbols = List.replicate (leftover symbols).length false :=
      List.eq_replicate_iff.2 ⟨rfl, zero⟩
    have size : (leftover symbols).length =
        fillSize ((toBytes symbols).flatMap byteBits).length := by
      have total := congrArg List.length whole
      rw [List.length_append, length_flatMap_symbolBits] at total
      rw [fillSize]
      omega
    rw [size] at zeros
    rw [← symbolsOfBits_append_fill, ← zeros, whole, symbolsOfBits_flatMap]

end TxInspect.Bech32
