import TxInspect.Number.Digit

/-!
# Decimal amounts

An amount is written in decimal digits, `+` allowed once in front (`amount?`), and shown without
leading zeros (`text`).
-/

namespace TxInspect.Decimal

/-- The value of decimal digits read after `value`. -/
def digits? : Nat → List Char → Option Nat
  | value, [] => some value
  | value, c :: cs =>
    match Digit.decimal? c with
    | some d => digits? (value * 10 + d) cs
    | none => none

/-- The value of one or more decimal digits. -/
def unsigned? (cs : List Char) : Option Nat :=
  if cs = [] then none else digits? 0 cs

/-- The amount that a text states: digits, after at most one `+`. -/
def amount? (s : String) : Option Nat :=
  match s.toList with
  | '+' :: cs => unsigned? cs
  | cs => unsigned? cs

/-- The amount in decimal digits. -/
def text (n : Nat) : String :=
  String.ofList (Nat.toDigits 10 n)

end TxInspect.Decimal
