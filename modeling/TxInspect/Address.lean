import TxInspect.Codec.Bech32
import TxInspect.Number.Word
import TxInspect.Text.Blank
import TxInspect.Text.LetterCase

/-!
# Account addresses

An address is a fixed number of bytes, written in bech32 under a fixed human-readable part
(`Format`) or in hexadecimal. `Format.resolve` takes either form and answers with both (`Forms`).
-/

namespace TxInspect.Address

/-- Why an address is refused. -/
inductive Fault where
  | notBech32 (cause : Bech32.Fault)
  | wrongPrefix (expected found : String)
  | wrongLength (expected found : Nat)
  | notHex (cause : Hex.Fault)
deriving DecidableEq, Repr

/-- The fault in words. -/
def Fault.message : Fault → String
  | .notBech32 cause => "invalid bech32 address: " ++ cause.message
  | .wrongPrefix expected found =>
    "wrong address prefix: expected '" ++ expected ++ "', found '" ++ found ++ "'"
  | .wrongLength expected found =>
    "invalid address length: expected " ++ Decimal.text expected ++ " bytes, found "
      ++ Decimal.text found
  | .notHex cause => "invalid hex address: " ++ cause.message

/-- The text of the fault that lies under this one. -/
def Fault.cause? : Fault → Option String
  | .notHex cause => some cause.message
  | _ => none

/-- How the addresses of a network look: their human-readable part and their number of bytes. -/
structure Format where
  hrp : String
  size : Nat
deriving DecidableEq, Repr

/-- The format with a human-readable part given in any case. -/
def Format.ofPrefix (name : String) (size : Nat) : Format where
  hrp := Text.lowerCase name
  size := size

namespace Format

/-- Refuses a number of bytes other than the format's. -/
def checkSize (f : Format) (bs : List UInt8) : Except Fault Unit :=
  if bs.length = f.size then .ok () else .error (.wrongLength f.size bs.length)

/-- The bech32 text of an address. -/
def encode (f : Format) (bs : List UInt8) : Except Fault String := do
  f.checkSize bs
  match Bech32.encode f.hrp.toList bs with
  | .ok text => .ok (String.ofList text)
  | .error cause => .error (.notBech32 cause)

/-- The bytes that a hexadecimal text states, as an address fault if it is none. -/
def hexBytes (digits : String) : Except Fault (List UInt8) :=
  (Hex.ofText digits).mapError .notHex

/-- The bech32 text of an address given in hexadecimal. -/
def encodeHex (f : Format) (digits : String) : Except Fault String :=
  hexBytes digits >>= f.encode

/-- The address that a bech32 text states. -/
def decode (f : Format) (text : String) : Except Fault (List UInt8) := do
  let (hrp, bs) ← (Bech32.decode text.toList).mapError .notBech32
  let found := String.ofList hrp
  if found ≠ f.hrp then .error (.wrongPrefix f.hrp found)
  f.checkSize bs
  return bs

end Format

/-- A contract's address starts with this many zero bytes. -/
def contractZeros : Nat := 8

/-- The address is a contract's. -/
def isContract (bs : List UInt8) : Bool :=
  decide (contractZeros < bs.length) && (bs.take contractZeros).all (· == 0)

/-- An address in both forms. -/
structure Forms where
  bech32 : String
  hex : String
  isContract : Bool
deriving DecidableEq, Repr

namespace Format

/-- Both forms of an address given as bytes. -/
def forms (f : Format) (bs : List UInt8) : Except Fault Forms := do
  let text ← f.encode bs
  return ⟨text, Hex.toText bs, isContract bs⟩

/-- The text after a leading `0x`. -/
def afterMark : List Char → List Char
  | '0' :: 'x' :: cs => cs
  | cs => cs

/-- As many hexadecimal digits as an address has, and nothing else. The number of digits is kept in
a word of 64 bits, as the number of bytes is. -/
def isHexForm (f : Format) (digits : List Char) : Bool :=
  (Utf8.encode digits).length == f.size * 2 % Word.limit 64
    && digits.all fun c => (Digit.hexadecimal? c).isSome

/-- The bytes of an address given in either form, `0x` allowed before hexadecimal digits. -/
def resolveBytes (f : Format) (input : List Char) : Except Fault (List UInt8) :=
  let digits := afterMark input
  if f.isHexForm digits then hexBytes (String.ofList digits) else f.decode (String.ofList input)

/-- Both forms of an address given in either, with white space around it ignored. -/
def resolve (f : Format) (input : String) : Except Fault Forms :=
  f.resolveBytes (Text.trim input.toList) >>= f.forms

end Format

end TxInspect.Address
