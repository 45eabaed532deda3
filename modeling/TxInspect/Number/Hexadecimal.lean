import TxInspect.Number.Digit
import TxInspect.Number.Word

/-!
# Hexadecimal amounts

Three ways of reading a number to base sixteen, for three kinds of call argument. An amount
(`amount?`) has no bound and allows digits to be parted by `_`; a count (`count?`) is a word of 64
bits; a nonce (`nonce?`) is a positive number of 63 bits.
-/

namespace TxInspect.Hexadecimal

/-- The value of hexadecimal digits read after `value`. -/
def digits? : Nat → List Char → Option Nat
  | value, [] => some value
  | value, c :: cs =>
    match Digit.hexadecimal? c with
    | some d => digits? (value * 16 + d) cs
    | none => none

/-- The value of one or more hexadecimal digits. -/
def unsigned? (cs : List Char) : Option Nat :=
  if cs = [] then none else digits? 0 cs

/-- The digits after a `+`, unless a second `+` follows. -/
def afterPlus : List Char → List Char
  | '+' :: '+' :: cs => '+' :: '+' :: cs
  | '+' :: cs => cs
  | cs => cs

/-- The amount that a text states: digits with `_` anywhere but in front, after at most one `+`. -/
def amount? (s : String) : Option Nat :=
  match afterPlus s.toList with
  | [] => none
  | '_' :: _ => none
  | cs => digits? 0 (cs.filter (· ≠ '_'))

/-- The number that a text states: digits, after at most one `+`. -/
def number? (s : String) : Option Nat :=
  match s.toList with
  | '+' :: cs => unsigned? cs
  | cs => unsigned? cs

/-- The number below `2 ^ 64` that a text states. -/
def count? (s : String) : Option Nat :=
  (number? s).filter (· < Word.limit 64)

/-- The number from 1 to `2 ^ 63 - 1` that a text states. -/
def nonce? (s : String) : Option Nat :=
  (number? s).filter fun n => 0 < n && n < Word.limit 63

end TxInspect.Hexadecimal
