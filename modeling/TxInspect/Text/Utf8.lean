/-!
# UTF-8

Characters as bytes (`encode`) and bytes as characters. Reading walks the bytes once with what is
still open of a character (`Open`): a byte that cannot continue it makes the bytes read so far one
fault, and starts again as a first byte. So a fault is always a longest start of some character.
`decode?` refuses a text with a fault, and `decodeLossy` writes U+FFFD for each.
-/

namespace TxInspect.Utf8

/-- The bytes of a list of characters. -/
def encode (cs : List Char) : List UInt8 :=
  cs.flatMap String.utf8EncodeChar

/-- The bytes of a text. -/
def bytes (s : String) : List UInt8 :=
  encode s.toList

/-- A character whose first bytes have been read: their bits, the bounds of the next byte, and how
many bytes follow that one. -/
structure Open where
  code : Nat
  low : Nat
  high : Nat
  more : Nat

/-- What a first byte is. -/
inductive First where
  | whole (c : Char)
  | start (o : Open)
  | fault

/-- Reads a first byte. The bounds of the second byte leave out long forms, surrogates and what lies
beyond the last character. -/
def first (b : UInt8) : First :=
  let n := b.toNat
  if n < 0x80 then .whole (Char.ofNat n)
  else if n < 0xC2 then .fault
  else if n < 0xE0 then .start ⟨n - 0xC0, 0x80, 0xBF, 0⟩
  else if n = 0xE0 then .start ⟨0, 0xA0, 0xBF, 1⟩
  else if n = 0xED then .start ⟨0xD, 0x80, 0x9F, 1⟩
  else if n < 0xF0 then .start ⟨n - 0xE0, 0x80, 0xBF, 1⟩
  else if n = 0xF0 then .start ⟨0, 0x90, 0xBF, 2⟩
  else if n < 0xF4 then .start ⟨n - 0xF0, 0x80, 0xBF, 2⟩
  else if n = 0xF4 then .start ⟨4, 0x80, 0x8F, 2⟩
  else .fault

/-- The characters of the bytes in order, with `none` for each fault. -/
def scan : Option Open → List UInt8 → List (Option Char)
  | none, [] => []
  | some _, [] => [none]
  | none, b :: bs =>
    match first b with
    | .whole c => some c :: scan none bs
    | .start o => scan (some o) bs
    | .fault => none :: scan none bs
  | some o, b :: bs =>
    if o.low ≤ b.toNat ∧ b.toNat ≤ o.high then
      let code := o.code * 64 + (b.toNat - 0x80)
      match o.more with
      | 0 => some (Char.ofNat code) :: scan none bs
      | more + 1 => scan (some ⟨code, 0x80, 0xBF, more⟩) bs
    else
      match first b with
      | .whole c => none :: some c :: scan none bs
      | .start o => none :: scan (some o) bs
      | .fault => none :: none :: scan none bs

/-- The sign that stands for a fault. -/
def replacement : Char := Char.ofNat 0xFFFD

/-- The characters of the bytes, with U+FFFD for each fault. -/
def decodeLossy (bs : List UInt8) : List Char :=
  (scan none bs).map (·.getD replacement)

/-- The characters of the bytes, if there is no fault. -/
def decode? (bs : List UInt8) : Option (List Char) :=
  (scan none bs).mapM id

/-- The bytes as a text, with U+FFFD for each fault. -/
def lossy (bs : List UInt8) : String :=
  String.ofList (decodeLossy bs)

/-- The bytes as a text, if there is no fault. -/
def text? (bs : List UInt8) : Option String :=
  (decode? bs).map String.ofList

end TxInspect.Utf8
