import TxInspect.Text.Columns.Character

/-!
# Ligatures

In some scripts letters that meet are written as one sign. A text is read from its end, so a letter
that may be taken in by letters on its left is kept as a `Ligature`. `Ligature.extend?` says which
characters belong to the sign, and by how much its width changes.
-/

namespace TxInspect.Text

/-- The Arabic letters that a lam takes in, in order. -/
def alefs : List (Nat × Nat) := [
  (0x622, 0x623), (0x625, 0x625), (0x627, 0x627), (0x671, 0x673), (0x675, 0x675), (0x773, 0x774),
  (0x870, 0x882)]

/-- The Arabic letters that take in an alef, in order. -/
def lams : List (Nat × Nat) := [
  (0x644, 0x644), (0x6B5, 0x6B8), (0x76A, 0x76A), (0x8A6, 0x8A6), (0x8C7, 0x8C7)]

/-- The Khmer letters with a form below the line, in order. -/
def khmerLetters : List (Nat × Nat) := [
  (0x1780, 0x1782), (0x1784, 0x1787), (0x1789, 0x178C), (0x178E, 0x1793), (0x1795, 0x1798),
  (0x179B, 0x179D), (0x17A0, 0x17A0), (0x17A2, 0x17A2), (0x17A7, 0x17A7), (0x17AB, 0x17AC),
  (0x17AF, 0x17AF)]

/-- The Tifinagh consonants, in order. -/
def tifinaghConsonants : List (Nat × Nat) := [(0x2D31, 0x2D65), (0x2D6F, 0x2D6F)]

/-- The marks that may stand between the letters of a sign, in order. -/
def marksWithin : List (Nat × Nat) := [
  (0x34F, 0x34F), (0x17B4, 0x17B5), (0x180B, 0x180D), (0x180F, 0x180F), (0xFE00, 0xFE0F),
  (0xE0100, 0xE01EF)]

/-- The code points of no width that keep an alef from a lam, in order. -/
def separating : List (Nat × Nat) := [
  (0x605, 0x605), (0x890, 0x891), (0x8E2, 0x8E2), (0x9BE, 0x9BE), (0x9D7, 0x9D7), (0xB3E, 0xB3E),
  (0xB57, 0xB57), (0xBBE, 0xBBE), (0xBD7, 0xBD7), (0xCC0, 0xCC0), (0xCC2, 0xCC2), (0xCC7, 0xCC8),
  (0xCCA, 0xCCB), (0xCD5, 0xCD6), (0xD3E, 0xD3E), (0xD4E, 0xD4E), (0xD57, 0xD57), (0xDCF, 0xDCF),
  (0xDDF, 0xDDF), (0x1160, 0x11FF), (0x1715, 0x1715), (0x1734, 0x1734), (0x180E, 0x180E),
  (0x1B35, 0x1B35), (0x1B3B, 0x1B3B), (0x1B3D, 0x1B3D), (0x1B43, 0x1B44), (0x1BAA, 0x1BAA),
  (0x1BF2, 0x1BF3), (0x200C, 0x200D), (0x2065, 0x2069), (0x302E, 0x302F), (0x3164, 0x3164),
  (0xA8FA, 0xA8FA), (0xA953, 0xA953), (0xA9C0, 0xA9C0), (0xD7B0, 0xD7C6), (0xD7CB, 0xD7FB),
  (0xFF9E, 0xFFA0), (0xFFF0, 0xFFF8), (0x111C0, 0x111C0), (0x111C2, 0x111C3), (0x11235, 0x11235),
  (0x1133E, 0x1133E), (0x1134D, 0x1134D), (0x11357, 0x11357), (0x113B8, 0x113B8),
  (0x113C2, 0x113C2), (0x113C5, 0x113C5), (0x113C7, 0x113C9), (0x113CF, 0x113CF),
  (0x113D1, 0x113D1), (0x114B0, 0x114B0), (0x114BD, 0x114BD), (0x115AF, 0x115AF),
  (0x116B6, 0x116B6), (0x11930, 0x11930), (0x1193D, 0x1193D), (0x1193F, 0x1193F),
  (0x11941, 0x11941), (0x11A84, 0x11A89), (0x11D46, 0x11D46), (0x11F02, 0x11F02),
  (0x11F41, 0x11F41), (0x16FF0, 0x16FF1), (0x1D165, 0x1D166), (0x1D16D, 0x1D172),
  (0xE0000, 0xE0000), (0xE0002, 0xE001F), (0xE0080, 0xE00FF), (0xE01F0, 0xE0FFF)]

/-- The mark may stand between a lam and an alef. -/
def isJoiningTransparent (c : Char) : Bool :=
  columnsOf c == 0 && !inRanges separating c.toNat

/-- A letter that letters on its left may take in; some need a joiner between. -/
inductive Ligature where
  /-- An Arabic alef, which a lam takes in. -/
  | alef
  /-- A Hebrew lamed, which an alef takes in through a joiner. -/
  | lamed (joined : Bool)
  /-- A Buginese ya, which another ya takes in through a vowel sign and a joiner. -/
  | ya (joined : Bool)
  /-- A Buginese vowel sign, joined to a ya. -/
  | signBeforeYa
  /-- A Tifinagh consonant, which another one takes in through a joiner of either kind. -/
  | tifinagh (joined : Bool)
  /-- The Tifinagh joiner before a consonant. -/
  | tifinaghJoiner
  /-- A Lisu tone letter, which the tone letter before it takes in. -/
  | lisuTone
  /-- An Old Turkic i, which a letter takes in through a joiner. -/
  | orkhonI (joined : Bool)
  /-- A Khmer letter, which the sign for the form below the line makes part of the one before. -/
  | khmer
  /-- The Kirat Rai vowel sign e. -/
  | kiratE
  /-- The Kirat Rai vowel sign ai. -/
  | kiratAi
deriving DecidableEq, Repr

namespace Ligature

/-- The letter that a character is, if letters on its left may take it in. -/
def ofChar? (c : Char) : Option Ligature :=
  let n := c.toNat
  if n = 0x5DC then some (.lamed false)
  else if inRanges alefs n then some .alef
  else if inRanges khmerLetters n then some .khmer
  else if n = 0x1A10 then some (.ya false)
  else if inRanges tifinaghConsonants n then some (.tifinagh false)
  else if n = 0xA4FC || n = 0xA4FD then some .lisuTone
  else if n = 0x10C03 then some (.orkhonI false)
  else if n = 0x16D67 then some .kiratE
  else if n = 0x16D68 then some .kiratAi
  else none

/-- The letter after a joiner. -/
def join : Ligature → Ligature
  | .lamed _ => .lamed true
  | .ya _ => .ya true
  | .tifinagh _ => .tifinagh true
  | .orkhonI _ => .orkhonI true
  | l => l

/-- A character that the sign is made of: what is open at its left then, and the change of its
width. -/
def take? (l : Ligature) (c : Char) : Option (Int × Option Ligature) :=
  let n := c.toNat
  match l with
  | .alef =>
    if inRanges lams n then some (0, none)
    else if isJoiningTransparent c then some (0, some .alef)
    else none
  | .lamed true => if n = 0x5D0 then some (0, none) else none
  | .ya true => if n = 0x1A17 then some (0, some .signBeforeYa) else none
  | .signBeforeYa => if n = 0x1A15 then some (0, none) else none
  | .tifinagh joined =>
    if n = 0x2D7F then some (1, some .tifinaghJoiner)
    else if joined && inRanges tifinaghConsonants n then some (0, none)
    else none
  | .tifinaghJoiner => if inRanges tifinaghConsonants n then some (-1, none) else none
  | .lisuTone => if 0xA4F8 ≤ n && n ≤ 0xA4FB then some (0, none) else none
  | .orkhonI true => if n = 0x10C32 then some (0, none) else none
  | .khmer => if n = 0x17D2 then some (-1, none) else none
  | .kiratE =>
    if n = 0x16D63 || n = 0x16D69 then some (0, none)
    else if n = 0x16D67 then some (0, some .kiratAi)
    else if n = 0x16D68 then some (1, some .kiratE)
    else none
  | .kiratAi => if n = 0x16D63 then some (0, none) else none
  | _ => none

/-- The sign with one more character at its left. Marks within it change nothing; between a lam and
an alef other marks may stand. -/
def extend? (l : Ligature) (c : Char) : Option (Int × Option Ligature) :=
  if l = .alef then l.take? c
  else if c.toNat = 0x200D then some (0, some l.join)
  else if inRanges marksWithin c.toNat then some (0, some l)
  else l.take? c

end Ligature

end TxInspect.Text
