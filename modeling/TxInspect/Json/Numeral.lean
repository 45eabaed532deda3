import TxInspect.Number.Digit
import TxInspect.Number.Word

/-!
# Numbers of JSON

A number is kept as it is written (`Numeral`). It is an unsigned integer when it consists of digits
alone (`unsigned?`). A number that a double cannot hold is out of range (`isOutOfRange`): of the
digits as many as fit into a word of 64 bits are taken (`scaled`), and their product with the power
of ten is computed in double precision.
-/

namespace TxInspect.Json

/-- A number as it is written. The digits are values from 0 to 9. -/
structure Numeral where
  negative : Bool
  whole : List Nat
  /-- The digits after the point; there is no point if there are none. -/
  fraction : List Nat
  /-- The exponent, if there is one: whether it is negative, and its digits. -/
  exponent : Option (Bool × List Nat)
deriving DecidableEq, Repr

/-- The number that digits state, after `value`. -/
def digitsValue (value : Nat) (digits : List Nat) : Nat :=
  digits.foldl (fun n d => n * 10 + d) value

/-- Decimal digits read as a word and a power of ten. -/
structure Scaled where
  significand : Nat
  power : Int
deriving DecidableEq, Repr

namespace Scaled

/-- One more digit before the point: a digit that does not fit any more, and every one after it,
only raises the power. -/
def pushWhole (s : Scaled) (d : Nat) : Scaled :=
  if s.power = 0 ∧ s.significand * 10 + d < Word.limit 64 then ⟨s.significand * 10 + d, 0⟩
  else ⟨s.significand, s.power + 1⟩

/-- The digits after the point, up to the first one that does not fit. -/
def pushFraction (s : Scaled) : List Nat → Scaled
  | [] => s
  | d :: ds =>
    if s.significand * 10 + d < Word.limit 64 then
      pushFraction ⟨s.significand * 10 + d, s.power - 1⟩ ds
    else s

end Scaled

/-- The number `n` rounded to 53 binary digits, a tie going to the even neighbour. -/
def roundToDouble (n : Nat) : Nat :=
  let unit := Nat.pow 2 (n.log2 + 1 - 53)
  let low := n / unit
  let rest := 2 * (n % unit)
  if rest > unit ∨ (rest = unit ∧ low % 2 = 1) then (low + 1) * unit else low * unit

/-- The least number that rounds beyond the greatest double. -/
def doubleLimit : Nat := Nat.pow 2 1024 - Nat.pow 2 970

/-- The greatest power of ten below that limit. -/
def maxPower : Nat := 308

/-- The least exponent that is not counted. -/
def exponentLimit : Nat := Word.limit 31

/-- The product of significand and power exceeds every double. -/
def Scaled.isOutOfRange (s : Scaled) : Bool :=
  decide (s.significand ≠ 0 ∧ 0 ≤ s.power) &&
    (decide (maxPower < s.power.toNat) ||
      decide (doubleLimit ≤ roundToDouble s.significand * roundToDouble (Nat.pow 10 s.power.toNat)))

namespace Numeral

/-- The digits as a word and a power of ten, without the exponent. -/
def scaled (n : Numeral) : Scaled :=
  (n.whole.foldl Scaled.pushWhole ⟨0, 0⟩).pushFraction n.fraction

/-- No double is as great as the number. -/
def isOutOfRange (n : Numeral) : Bool :=
  let s := n.scaled
  match n.exponent with
  | none => s.isOutOfRange
  | some (negative, digits) =>
    let e := digitsValue 0 digits
    if exponentLimit ≤ e then decide (s.significand ≠ 0) && !negative
    else Scaled.isOutOfRange ⟨s.significand, if negative then s.power - e else s.power + e⟩

/-- The value of a number that is written in digits alone. -/
def unsigned? (n : Numeral) : Option Nat :=
  if n.negative = false ∧ n.fraction = [] ∧ n.exponent = none then some (digitsValue 0 n.whole)
  else none

end Numeral

/-- How far a number has been read. -/
inductive NumeralPhase where
  /-- After the minus sign. -/
  | sign
  /-- After a zero in front. -/
  | zero
  | whole
  | point
  | fraction
  /-- After the `e`. -/
  | mark
  /-- After the sign of the exponent. -/
  | markSign
  | exponent
deriving DecidableEq, Repr

/-- A number that is being read. -/
structure PartialNumeral where
  numeral : Numeral
  phase : NumeralPhase
deriving DecidableEq, Repr

/-- What a byte makes of a number that is being read. -/
inductive NumeralStep where
  | more (n : PartialNumeral)
  /-- The byte does not belong to the number, which is whole without it. -/
  | finished
  /-- The byte does not belong to the number, which is not whole. -/
  | broken

namespace PartialNumeral

/-- A number after its minus sign. -/
def afterSign : PartialNumeral := ⟨⟨true, [], [], none⟩, .sign⟩

/-- The number with a first digit. -/
def first (negative : Bool) (d : Nat) : PartialNumeral :=
  ⟨⟨negative, [d], [], none⟩, if d = 0 then .zero else .whole⟩

/-- The number could end here. -/
def isWhole (n : PartialNumeral) : Bool :=
  match n.phase with
  | .zero | .whole | .fraction | .exponent => true
  | .sign | .point | .mark | .markSign => false

/-- The number with one more digit. -/
def pushDigit (n : PartialNumeral) (d : Nat) : NumeralStep :=
  match n.phase with
  | .sign => .more (first true d)
  | .zero => .broken
  | .whole => .more ⟨{ n.numeral with whole := n.numeral.whole ++ [d] }, .whole⟩
  | .point | .fraction =>
    .more ⟨{ n.numeral with fraction := n.numeral.fraction ++ [d] }, .fraction⟩
  | .mark => .more ⟨{ n.numeral with exponent := some (false, [d]) }, .exponent⟩
  | .markSign | .exponent =>
    let (negative, digits) := n.numeral.exponent.getD (false, [])
    .more ⟨{ n.numeral with exponent := some (negative, digits ++ [d]) }, .exponent⟩

/-- The number with a sign in front of its exponent. -/
def pushSign (n : PartialNumeral) (negative : Bool) : NumeralStep :=
  match n.phase with
  | .mark => .more ⟨{ n.numeral with exponent := some (negative, []) }, .markSign⟩
  | _ => if n.isWhole then .finished else .broken

/-- The number with one more byte. -/
def step (n : PartialNumeral) (b : UInt8) : NumeralStep :=
  match Digit.decimal? (Digit.ofByte b) with
  | some d => n.pushDigit d
  | none =>
    match Digit.ofByte b with
    | '.' =>
      match n.phase with
      | .zero | .whole => .more ⟨n.numeral, .point⟩
      | _ => if n.isWhole then .finished else .broken
    | 'e' | 'E' =>
      match n.phase with
      | .zero | .whole | .fraction => .more ⟨n.numeral, .mark⟩
      | _ => if n.isWhole then .finished else .broken
    | '+' => n.pushSign false
    | '-' => n.pushSign true
    | _ => if n.isWhole then .finished else .broken

end PartialNumeral

end TxInspect.Json
