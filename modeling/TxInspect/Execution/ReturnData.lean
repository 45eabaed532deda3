import TxInspect.Codec.Hex
import TxInspect.Execution.Fault
import TxInspect.Execution.ReturnCode
import TxInspect.Text.Pieces

/-!
# Return data

A contract returns a code in hexadecimal and values as they are, each after the sign `@`
(`ReturnData.ofText`).
-/

namespace TxInspect

/-- What a contract returns. -/
structure ReturnData where
  code : ReturnCode
  values : List (List UInt8)
deriving DecidableEq, Repr

namespace ReturnData

/-- The sign in front of the code and of each value. -/
def separator : Char := '@'

/-- The code that hexadecimal digits state. -/
def code? (digits : List Char) : Option ReturnCode :=
  match Hex.decode (Utf8.encode digits) with
  | .ok bs => some (.ofText (Utf8.lossy bs))
  | .error _ => none

/-- Reads a code and values. The code has to be there, and nothing may stand before the first
sign. -/
def ofText (s : String) : Except Outcome.Fault ReturnData :=
  if s = "" then .error .emptyData
  else match Text.pieces separator s.toList with
    | _ :: [] :: _ => .error .noReturnCode
    | [] :: digits :: values =>
      match code? digits with
      | some code => .ok ⟨code, values.map Utf8.encode⟩
      | none => .error .unreadableData
    | _ => .error .unreadableData

end ReturnData

end TxInspect
