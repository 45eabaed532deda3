import TxInspect.Json.Fault
import TxInspect.Json.Literal
import TxInspect.Json.Numeral

/-!
# What a JSON text states, as it is written

A `Node` is a value with its numbers and strings as they are written, all members of its objects in
order, and the place where it breaks off if the text is not whole. A text holds at most one such
place: everything before it is whole, and every array and object around it ends with the same break.
So a value can be skipped by looking at its own end alone (`Node.skip`).
-/

namespace TxInspect.Json

/-- A value as it is written. -/
inductive Node where
  | null
  | bool (b : Bool)
  | number (n : Numeral)
  | text (q : Literal)
  | array (items : List Node) (ending : Option Break)
  | object (members : List (Literal × Node)) (ending : Option Break)
  /-- The text breaks off before there is a value. -/
  | broken (b : Break)

/-- Goes over the end of an array or object that is read. -/
def readEnd : Option Break → Except Fault Unit
  | none => .ok ()
  | some b => .error b.read

/-- Goes over a value that nobody asked for. -/
def Node.skip : Node → Except Fault Unit
  | .array _ (some b) | .object _ (some b) | .broken b => .error b.skipped
  | _ => .ok ()

end TxInspect.Json
