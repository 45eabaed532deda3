import TxInspect.Codec.Bech32.Groups

/-!
# The checksum of addresses

Symbols are fed to a register of six symbols, the remainder of a polynomial division (`feed`). The
six symbols of a checksum (`checksum`) bring the register to the `target` of a variant; a text is
`checked` by a variant when it does so. The human-readable part goes in first, spread over the high
and the low bits of its characters (`spread`).
-/

namespace TxInspect.Bech32

/-- The variants of the checksum, which differ in the value that the register has to reach. -/
inductive Variant where
  | plain
  | modified
deriving DecidableEq, Repr

/-- The register of a division: six symbols. -/
abbrev Register := BitVec 30

/-- The value that the register has to reach. -/
def Variant.target : Variant → Register
  | .plain => 1
  | .modified => 0x2bc830a3

/-- What a symbol that leaves the register adds to it, for each of the symbol's bits. -/
def feedback (top : Symbol) : Register :=
  (if top.getLsbD 0 then 0x3b6a57b2 else 0) ^^^ (if top.getLsbD 1 then 0x26508e6d else 0)
    ^^^ (if top.getLsbD 2 then 0x1ea119fa else 0) ^^^ (if top.getLsbD 3 then 0x3d4233dd else 0)
    ^^^ (if top.getLsbD 4 then 0x2a1462b3 else 0)

/-- The register with one more symbol. -/
def feed (r : Register) (s : Symbol) : Register :=
  r <<< 5 ^^^ s.setWidth 30 ^^^ feedback ((r >>> 25).setWidth 5)

/-- The register with more symbols. -/
def feedAll (r : Register) (symbols : List Symbol) : Register :=
  symbols.foldl feed r

/-- The symbols that stand for a human-readable part: the high bits of its characters, a zero, and
their low bits. -/
def spread (hrp : List Char) : List Symbol :=
  hrp.map (fun c => BitVec.ofNat 5 (c.toNat / 32)) ++ 0 :: hrp.map fun c => BitVec.ofNat 5 c.toNat

/-- The register after a human-readable part and some symbols. -/
def residue (hrp : List Char) (symbols : List Symbol) : Register :=
  feedAll 1 (spread hrp ++ symbols)

/-- The number of symbols in a checksum. -/
def checksumSize : Nat := 6

/-- The symbols of a register, the oldest one first. -/
def registerSymbols (r : Register) : List Symbol :=
  [(r >>> 25).setWidth 5, (r >>> 20).setWidth 5, (r >>> 15).setWidth 5, (r >>> 10).setWidth 5,
    (r >>> 5).setWidth 5, r.setWidth 5]

/-- The checksum of a human-readable part and some symbols. -/
def checksum (variant : Variant) (hrp : List Char) (symbols : List Symbol) : List Symbol :=
  registerSymbols (feedAll (residue hrp symbols) (List.replicate checksumSize 0) ^^^ variant.target)

/-- The symbols end with the checksum of a variant. -/
def checked (variant : Variant) (hrp : List Char) (symbols : List Symbol) : Bool :=
  residue hrp symbols == variant.target

end TxInspect.Bech32
