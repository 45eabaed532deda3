/-!
# Digits

The values of decimal and hexadecimal digits (`decimal?`, `hexadecimal?`) and the lower-case digit
of a value (`hexadecimal`). Only ASCII characters are digits. A byte is read as the character with
its code point (`ofByte`).
-/

namespace TxInspect.Digit

/-- The value of a decimal digit. -/
def decimal? (c : Char) : Option Nat :=
  if '0'.toNat ≤ c.toNat ∧ c.toNat ≤ '9'.toNat then some (c.toNat - '0'.toNat) else none

/-- The value of a hexadecimal digit, in either case. -/
def hexadecimal? (c : Char) : Option Nat :=
  if '0'.toNat ≤ c.toNat ∧ c.toNat ≤ '9'.toNat then some (c.toNat - '0'.toNat)
  else if 'a'.toNat ≤ c.toNat ∧ c.toNat ≤ 'f'.toNat then some (c.toNat - 'a'.toNat + 10)
  else if 'A'.toNat ≤ c.toNat ∧ c.toNat ≤ 'F'.toNat then some (c.toNat - 'A'.toNat + 10)
  else none

/-- The lower-case digit of a value below sixteen. -/
def hexadecimal (n : Nat) : Char :=
  if n < 10 then Char.ofNat ('0'.toNat + n) else Char.ofNat ('a'.toNat + (n - 10))

/-- The character that has the byte as its code point. -/
def ofByte (b : UInt8) : Char :=
  Char.ofNat b.toNat

theorem hexadecimal?_hexadecimal {n : Nat} (h : n < 16) :
    hexadecimal? (hexadecimal n) = some n := by
  have all : ∀ m : Fin 16, hexadecimal? (hexadecimal m.val) = some m.val := by decide
  exact all ⟨n, h⟩

end TxInspect.Digit
