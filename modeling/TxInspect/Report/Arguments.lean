import TxInspect.Codec.Hex
import TxInspect.Report.Table

/-!
# Arguments of a call

A table shows each argument of a call in hexadecimal, shortened in the middle if it is long
(`shortened?`), and as a text if it is one (`printable?`).
-/

namespace TxInspect.Report

/-- The characters that make up the first `n` bytes; none if the cut falls inside a character. -/
def takeBytes? : Nat → List Char → Option (List Char)
  | 0, _ => some []
  | _ + 1, [] => none
  | n + 1, c :: cs =>
    if c.utf8Size ≤ n + 1 then (takeBytes? (n + 1 - c.utf8Size) cs).map (c :: ·) else none

/-- A longer argument is shortened. -/
def maxArgumentBytes : Nat := 32

/-- How many bytes are shown of each end of a shortened argument. -/
def shownBytes : Nat := 14

/-- The argument, its middle left out if it is long; none if a cut falls inside a character. -/
def shortened? (arg : String) : Option String :=
  let cs := arg.toList
  if (Utf8.encode cs).length ≤ maxArgumentBytes then some arg
  else do
    let first ← takeBytes? shownBytes cs
    let last ← takeBytes? shownBytes cs.reverse
    return String.ofList (first ++ ['.', '.', '.'] ++ last.reverse)

/-- A printable ASCII character. -/
def isPrintableByte (b : UInt8) : Bool :=
  0x20 ≤ b && b ≤ 0x7E

/-- The text that an argument states in hexadecimal, if it is one or more printable ASCII
characters. -/
def printable? (arg : String) : Option String :=
  match Hex.ofText arg with
  | .ok bs =>
    if bs ≠ [] ∧ bs.all isPrintableByte = true then some (String.ofList (bs.map Digit.ofByte))
    else none
  | .error _ => none

/-- The cells for an argument. -/
def argumentRow? (index : Nat) (arg : String) : Option (List Cell) := do
  let hex ← shortened? arg
  return [.ofText (Decimal.text index), .ofText hex, .ofText ((printable? arg).getD "")]

/-- The table of arguments; none if one of them cannot be shortened. -/
def argumentTable? (args : List String) : Option Table := do
  let rows ← args.zipIdx.mapM fun (arg, index) => argumentRow? index arg
  return ⟨["#", "Hex", "Text"].map .ofText, rows⟩

end TxInspect.Report
