import TxInspect.Number.Digit
import TxInspect.Text.Utf8

/-!
# Strings of JSON

A string is kept as it is written, one `Piece` for each byte and each escape. Its text
(`Literal.text?`) exists when every surrogate escape has its partner and the bytes are UTF-8.
Reading goes byte by byte (`PartialLiteral.step`).
-/

namespace TxInspect.Json

/-- A part of a written string. -/
inductive Piece where
  | byte (b : UInt8)
  /-- An escape with four hexadecimal digits. -/
  | unit (n : Nat)
deriving DecidableEq, Repr

/-- A string as it is written. -/
abbrev Literal := List Piece

/-- Why the escapes of a string state no characters. -/
inductive Unpaired where
  /-- The string ends with the first half of a pair. -/
  | open
  /-- A half stands without the other one. -/
  | alone
deriving DecidableEq, Repr

/-- The unit is the first half of a pair. -/
def isLeading (n : Nat) : Bool := 0xD800 ≤ n && n ≤ 0xDBFF

/-- The unit is the second half of a pair. -/
def isTrailing (n : Nat) : Bool := 0xDC00 ≤ n && n ≤ 0xDFFF

/-- The character of two halves. -/
def pairChar (leading trailing : Nat) : Char :=
  Char.ofNat (0x10000 + (leading - 0xD800) * 0x400 + (trailing - 0xDC00))

namespace Literal

/-- The bytes of a string, its escapes in UTF-8. -/
def bytes? : Literal → Except Unpaired (List UInt8)
  | [] => .ok []
  | .byte b :: rest => (bytes? rest).map (b :: ·)
  | [.unit n] =>
    if isTrailing n then .error .alone
    else if isLeading n then .error .open
    else .ok (Utf8.encode [Char.ofNat n])
  | .unit n :: .byte b :: rest =>
    if isTrailing n || isLeading n then .error .alone
    else (bytes? rest).map fun bs => Utf8.encode [Char.ofNat n] ++ b :: bs
  | .unit n :: .unit m :: rest =>
    if isTrailing n then .error .alone
    else if isLeading n then
      if isTrailing m then (bytes? rest).map (Utf8.encode [pairChar n m] ++ ·) else .error .alone
    else (bytes? (.unit m :: rest)).map (Utf8.encode [Char.ofNat n] ++ ·)

/-- The text of a string. -/
def text? (q : Literal) : Option String :=
  match q.bytes? with
  | .ok bs => Utf8.text? bs
  | .error _ => none

end Literal

/-- How far a string has been read. -/
inductive LiteralPhase where
  | plain
  /-- After a backslash. -/
  | escape
  /-- After a backslash and `u`, with the bytes that followed. -/
  | digits (seen : List UInt8)
deriving DecidableEq, Repr

/-- A string that is being read: its pieces, the last one first. -/
structure PartialLiteral where
  pieces : List Piece
  phase : LiteralPhase
deriving DecidableEq, Repr

/-- What a byte makes of a string that is being read. -/
inductive LiteralStep where
  | more (q : PartialLiteral)
  | finished (q : Literal)
  | broken

/-- The byte that an escape of one letter stands for. -/
def letterEscape? (b : UInt8) : Option UInt8 :=
  match Digit.ofByte b with
  | '\"' => some 0x22
  | '\\' => some 0x5C
  | '/' => some 0x2F
  | 'b' => some 0x08
  | 'f' => some 0x0C
  | 'n' => some 0x0A
  | 'r' => some 0x0D
  | 't' => some 0x09
  | _ => none

/-- The unit of four hexadecimal digits. -/
def unit? (digits : List UInt8) : Option Nat :=
  (digits.mapM fun b => Digit.hexadecimal? (Digit.ofByte b)).map
    (List.foldl (fun n d => n * 16 + d) 0)

namespace PartialLiteral

/-- A string after its opening quote. -/
def empty : PartialLiteral := ⟨[], .plain⟩

/-- The string that has been read so far. -/
def literal (q : PartialLiteral) : Literal := q.pieces.reverse

/-- The string with one more piece. -/
def push (q : PartialLiteral) (p : Piece) : LiteralStep := .more ⟨p :: q.pieces, .plain⟩

/-- The string with one more byte. -/
def step (q : PartialLiteral) (b : UInt8) : LiteralStep :=
  match q.phase with
  | .plain =>
    if b = 0x22 then .finished q.literal
    else if b = 0x5C then .more ⟨q.pieces, .escape⟩
    else if b < 0x20 then .broken
    else q.push (.byte b)
  | .escape =>
    if b = 0x75 then .more ⟨q.pieces, .digits []⟩
    else match letterEscape? b with
      | some c => q.push (.byte c)
      | none => .broken
  | .digits [x, y, z] =>
    match unit? [x, y, z, b] with
    | some n => q.push (.unit n)
    | none => .broken
  | .digits seen => .more ⟨q.pieces, .digits (seen ++ [b])⟩

/-- A half without the other one has been read. -/
def isSpoilt (q : PartialLiteral) : Bool :=
  match q.literal.bytes? with
  | .error .alone => true
  | _ => false

end PartialLiteral

end TxInspect.Json
