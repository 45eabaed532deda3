import TxInspect.Codec.Bech32.Checksum
import TxInspect.Number.Decimal
import TxInspect.Codec.Hex

/-!
# Bech32

A text of this form has a human-readable part, the separator `1`, and symbols of five bits that end
with a checksum. `split` takes a text apart, `encode` writes bytes under a human-readable part, and
`decode` reads a text with a checksum of either variant. All faults are in `Fault`.
-/

namespace TxInspect.Bech32

/-- What is wrong with a text, or with what should be written as one. -/
inductive Fault where
  /-- The text has no separator, a foreign character, mixed case or no human-readable part. -/
  | unparsable
  /-- The checksum is missing or wrong, or the text is too long. -/
  | unchecked
  | emptyHrp
  | longHrp (bytes : Nat)
  | foreignCharacter (c : Char)
  | unprintable (byte : Nat)
  | tooLong
deriving DecidableEq, Repr

/-- The fault in words. -/
def Fault.message : Fault → String
  | .unparsable => "parsing failed"
  | .unchecked => "no valid bech32 or bech32m checksum"
  | .emptyHrp => "hrp is empty, must have at least 1 character"
  | .longHrp bytes =>
    "hrp is too long, found " ++ Decimal.text bytes ++ " characters, must be <= 126"
  | .foreignCharacter c => "found non-ASCII character: " ++ String.singleton c
  | .unprintable byte =>
    "byte value is not valid US-ASCII: '" ++ String.ofList (Nat.toDigits 16 byte) ++ "'"
  | .tooLong => "encode error"

/-- The characters of the symbols, in order. -/
def alphabet : List Char := "qpzry9x8gf2tvdw0s3jn54khce6mua7l".toList

/-- The character of a symbol. -/
def symbolChar (s : Symbol) : Char :=
  alphabet.getD s.toNat 'q'

/-- A capital ASCII letter. -/
def isCapital (c : Char) : Bool :=
  'A'.toNat ≤ c.toNat && c.toNat ≤ 'Z'.toNat

/-- A small ASCII letter. -/
def isSmall (c : Char) : Bool :=
  'a'.toNat ≤ c.toNat && c.toNat ≤ 'z'.toNat

/-- The small form of a capital ASCII letter, and every other character itself. -/
def small (c : Char) : Char :=
  if isCapital c then Char.ofNat (c.toNat + 32) else c

/-- The symbol of a character, in either case. -/
def symbol? (c : Char) : Option Symbol :=
  (alphabet.idxOf? (small c)).map (BitVec.ofNat 5)

/-- Capital and small letters both occur. -/
def mixesCase (cs : List Char) : Bool :=
  cs.any isCapital && cs.any isSmall

/-- The greatest length of a whole text. -/
def maxLength : Nat := 1023

/-- The greatest length of a human-readable part. -/
def maxHrpLength : Nat := 83

/-- The character may stand in a human-readable part. -/
def isHrpChar (c : Char) : Bool :=
  33 ≤ c.toNat && c.toNat ≤ 126

/-- The first character that may not stand in a human-readable part. -/
def checkHrpChars : List Char → Except Fault Unit
  | [] => .ok ()
  | c :: cs =>
    if c.toNat ≥ 128 then .error (.foreignCharacter c)
    else if isHrpChar c then checkHrpChars cs
    else .error (.unprintable c.toNat)

/-- Refuses what cannot be a human-readable part: first for its length in bytes, then for its
characters, then for its case. -/
def checkHrp (hrp : List Char) : Except Fault Unit :=
  let bytes := (Utf8.encode hrp).length
  if hrp = [] then .error .emptyHrp
  else if bytes > maxHrpLength then .error (.longHrp bytes)
  else do
    checkHrpChars hrp
    if mixesCase hrp then .error .unparsable else .ok ()

/-- The sign between the human-readable part and the symbols. -/
def separator : Char := '1'

/-- The characters before and after the last separator. -/
def split? (cs : List Char) : Option (List Char × List Char) :=
  let back := cs.reverse
  match back.dropWhile (· ≠ separator) with
  | [] => none
  | _ :: front => some (front.reverse, (back.takeWhile (· ≠ separator)).reverse)

/-- A text taken apart: its human-readable part as it is written, and its symbols. -/
structure Parts where
  hrp : List Char
  symbols : List Symbol
deriving DecidableEq, Repr

/-- Takes a text apart at its last separator. -/
def parts? (cs : List Char) : Option Parts := do
  let (hrp, tail) ← split? cs
  let symbols ← tail.mapM symbol?
  if mixesCase cs then none
  else match checkHrp hrp with
    | .ok () => some ⟨hrp, symbols⟩
    | .error _ => none

/-- The human-readable part in small letters. -/
def Parts.name (p : Parts) : List Char :=
  p.hrp.map small

/-- The symbols end with a checksum of the variant. -/
def Parts.hasChecksum (variant : Variant) (p : Parts) : Bool :=
  decide (checksumSize ≤ p.symbols.length) && checked variant p.name p.symbols

/-- The symbols without the checksum. -/
def Parts.payload (p : Parts) : List Symbol :=
  p.symbols.take (p.symbols.length - checksumSize)

/-- Reads a text: its human-readable part in small letters, and its bytes. -/
def decode (cs : List Char) : Except Fault (List Char × List UInt8) :=
  match parts? cs with
  | none => .error .unparsable
  | some p =>
    if cs.length ≤ maxLength ∧ (p.hasChecksum .plain || p.hasChecksum .modified) then
      .ok (p.name, toBytes p.payload)
    else .error .unchecked

/-- Writes bytes under a human-readable part, with the plain checksum. -/
def encode (hrp : List Char) (bs : List UInt8) : Except Fault (List Char) := do
  checkHrp hrp
  let symbols := ofBytes bs
  let text := hrp ++ separator :: (symbols ++ checksum .plain hrp symbols).map symbolChar
  if text.length ≤ maxLength then .ok text else .error .tooLong

end TxInspect.Bech32
