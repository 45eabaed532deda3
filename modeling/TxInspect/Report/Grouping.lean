import TxInspect.Number.Decimal

/-!
# Amounts in groups of three digits

The decimal digits of an amount are parted by commas, three by three from the right (`grouped`).
-/

namespace TxInspect.Report

/-- Digits from the last to the first, with a comma after each three that others follow. -/
def groupedFromEnd : List Char → List Char
  | a :: b :: c :: d :: rest => a :: b :: c :: ',' :: groupedFromEnd (d :: rest)
  | few => few

/-- Digits in groups of three. -/
def groupedDigits (digits : List Char) : List Char :=
  (groupedFromEnd digits.reverse).reverse

/-- An amount in groups of three digits. -/
def grouped (amount : Nat) : String :=
  String.ofList (groupedDigits (Decimal.text amount).toList)

end TxInspect.Report
