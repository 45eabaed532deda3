/-!
# Groups of five and of eight bits

A byte list is one run of bits, most significant bit first. `ofBytes` cuts the run into symbols of
five bits and fills the last one with zeros; `toBytes` cuts the run of some symbols into bytes and
drops the bits that are left over.
-/

namespace TxInspect.Bech32

/-- A group of five bits. -/
abbrev Symbol := BitVec 5

/-- The bits of a byte. -/
def byteBits (b : UInt8) : List Bool :=
  [b.toBitVec.getMsbD 0, b.toBitVec.getMsbD 1, b.toBitVec.getMsbD 2, b.toBitVec.getMsbD 3,
    b.toBitVec.getMsbD 4, b.toBitVec.getMsbD 5, b.toBitVec.getMsbD 6, b.toBitVec.getMsbD 7]

/-- The bits of a symbol. -/
def symbolBits (s : Symbol) : List Bool :=
  [s.getMsbD 0, s.getMsbD 1, s.getMsbD 2, s.getMsbD 3, s.getMsbD 4]

/-- Cuts bits into symbols, the last one filled with zeros. -/
def symbolsOfBits : List Bool → List Symbol
  | a :: b :: c :: d :: e :: rest => BitVec.ofBoolListBE [a, b, c, d, e] :: symbolsOfBits rest
  | [] => []
  | [a] => [BitVec.ofBoolListBE [a, false, false, false, false]]
  | [a, b] => [BitVec.ofBoolListBE [a, b, false, false, false]]
  | [a, b, c] => [BitVec.ofBoolListBE [a, b, c, false, false]]
  | [a, b, c, d] => [BitVec.ofBoolListBE [a, b, c, d, false]]

/-- Cuts bits into bytes, without those left over. -/
def bytesOfBits : List Bool → List UInt8
  | a :: b :: c :: d :: e :: f :: g :: h :: rest =>
    UInt8.ofBitVec (BitVec.ofBoolListBE [a, b, c, d, e, f, g, h]) :: bytesOfBits rest
  | _ => []

/-- The symbols of some bytes. -/
def ofBytes (bs : List UInt8) : List Symbol :=
  symbolsOfBits (bs.flatMap byteBits)

/-- The bytes of some symbols. -/
def toBytes (symbols : List Symbol) : List UInt8 :=
  bytesOfBits (symbols.flatMap symbolBits)

end TxInspect.Bech32
