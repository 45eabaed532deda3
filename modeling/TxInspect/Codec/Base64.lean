import TxInspect.Number.Decimal
import TxInspect.Text.Utf8

/-!
# Base64

The standard alphabet with padding. Reading (`decode`) accepts exactly what writing (`encode`)
produces: the padding has to be there and the bits that the last symbol has in excess have to be
zero. A text that is refused has one `Fault`: a stray symbol at the very end of the text is found
before anything else, and all other faults from left to right.
-/

namespace TxInspect.Base64

/-- What is wrong with a text that is not base64. -/
inductive Fault where
  | badSymbol (byte : UInt8) (index : Nat)
  | badLength (length : Nat)
  | badPadding
  | badLastSymbol (byte : UInt8) (index : Nat)
deriving DecidableEq, Repr

/-- The fault in words. -/
def Fault.message : Fault → String
  | .badSymbol byte index =>
    "Invalid symbol " ++ Decimal.text byte.toNat ++ ", offset " ++ Decimal.text index ++ "."
  | .badLength length => "Invalid input length: " ++ Decimal.text length
  | .badPadding => "Invalid padding"
  | .badLastSymbol byte index =>
    "Invalid last symbol " ++ Decimal.text byte.toNat ++ ", offset " ++ Decimal.text index ++ "."

/-- The sign `=`, which fills the last group up to four. -/
def pad : UInt8 := 61

/-- The value of a symbol. -/
def value? (b : UInt8) : Option Nat :=
  let n := b.toNat
  if 65 ≤ n ∧ n ≤ 90 then some (n - 65)
  else if 97 ≤ n ∧ n ≤ 122 then some (n - 97 + 26)
  else if 48 ≤ n ∧ n ≤ 57 then some (n - 48 + 52)
  else if n = 43 then some 62
  else if n = 47 then some 63
  else none

/-- The symbol of a value below 64. -/
def symbol (v : Nat) : UInt8 :=
  if v < 26 then UInt8.ofNat (v + 65)
  else if v < 52 then UInt8.ofNat (v - 26 + 97)
  else if v < 62 then UInt8.ofNat (v - 52 + 48)
  else if v = 62 then 43
  else 47

/-- The value of the symbol at `index`. -/
def symbolAt (index : Nat) (b : UInt8) : Except Fault Nat :=
  match value? b with
  | some v => .ok v
  | none => .error (.badSymbol b index)

/-- The three bytes of four symbols' values. -/
def threeBytes (w x y z : Nat) : List UInt8 :=
  [UInt8.ofNat (w * 4 + x / 16), UInt8.ofNat (x % 16 * 16 + y / 4), UInt8.ofNat (y % 4 * 64 + z)]

/-- Counts the padding after a first sign at `first`: nothing else may follow. -/
def paddingAfter (first : Nat) : List UInt8 → Except Fault Nat
  | [] => .ok 0
  | b :: bs =>
    if b = pad then (paddingAfter first bs).map (· + 1) else .error (.badSymbol pad first)

/-- Reads the last group from its place `place` on: the values of its symbols and the number of
its padding signs. The group starts at `index`, and its first two places hold symbols. -/
def lastGroup (index place : Nat) : List UInt8 → Except Fault (List Nat × Nat)
  | [] => .ok ([], 0)
  | b :: bs =>
    if b = pad then
      if place < 2 then .error (.badSymbol pad (index + place))
      else (paddingAfter (index + place) bs).map fun count => ([], count + 1)
    else
      match value? b with
      | none => .error (.badSymbol b (index + place))
      | some v => (lastGroup index (place + 1) bs).map fun (vs, count) => (v :: vs, count)

/-- The bytes of the last group, given its symbols' values and its padding. -/
def lastBytes (index : Nat) : List Nat × Nat → Except Fault (List UInt8)
  | ([w, x], padding) =>
    if padding ≠ 2 then .error .badPadding
    else if x % 16 ≠ 0 then .error (.badLastSymbol (symbol x) (index + 1))
    else .ok [UInt8.ofNat (w * 4 + x / 16)]
  | ([w, x, y], padding) =>
    if padding ≠ 1 then .error .badPadding
    else if y % 4 ≠ 0 then .error (.badLastSymbol (symbol y) (index + 2))
    else .ok [UInt8.ofNat (w * 4 + x / 16), UInt8.ofNat (x % 16 * 16 + y / 4)]
  | ([w, x, y, z], _) => .ok (threeBytes w x y z)
  | (vs, _) => .error (.badLength (index + vs.length))

/-- Reads groups of four from `index` on; the last of them may be padded. -/
def decodeGroups (index : Nat) : List UInt8 → Except Fault (List UInt8)
  | [] => .ok []
  | a :: b :: c :: d :: e :: rest => do
    let w ← symbolAt index a
    let x ← symbolAt (index + 1) b
    let y ← symbolAt (index + 2) c
    let z ← symbolAt (index + 3) d
    let more ← decodeGroups (index + 4) (e :: rest)
    return threeBytes w x y z ++ more
  | last => lastGroup index 0 last >>= lastBytes index

/-- The last byte, when it stands alone after groups of four and is no sign of base64. -/
def strayEnd (bs : List UInt8) : Option UInt8 :=
  if bs.length % 4 = 1 then bs.getLast?.filter fun b => b ≠ pad && (value? b).isNone else none

/-- The bytes that the symbols state. -/
def decode (bs : List UInt8) : Except Fault (List UInt8) :=
  match strayEnd bs with
  | some b => .error (.badSymbol b (bs.length - 1))
  | none => decodeGroups 0 bs

/-- The bytes that a text states. -/
def ofText (s : String) : Except Fault (List UInt8) :=
  decode (Utf8.bytes s)

/-- The symbols of the bytes, in groups of four. -/
def encode : List UInt8 → List UInt8
  | [] => []
  | [a] => [symbol (a.toNat / 4), symbol (a.toNat % 4 * 16), pad, pad]
  | [a, b] =>
    [symbol (a.toNat / 4), symbol (a.toNat % 4 * 16 + b.toNat / 16), symbol (b.toNat % 16 * 4), pad]
  | a :: b :: c :: rest =>
    symbol (a.toNat / 4) :: symbol (a.toNat % 4 * 16 + b.toNat / 16)
      :: symbol (b.toNat % 16 * 4 + c.toNat / 64) :: symbol (c.toNat % 64) :: encode rest

/-- The bytes as a text in base64. -/
def toText (bs : List UInt8) : String :=
  String.ofList ((encode bs).map Digit.ofByte)

end TxInspect.Base64
