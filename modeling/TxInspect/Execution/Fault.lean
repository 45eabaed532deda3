/-!
# Why an outcome cannot be told

The causes (`Outcome.Fault`) and their wording (`Fault.message`).
-/

namespace TxInspect.Outcome

/-- Why an outcome cannot be told. -/
inductive Fault where
  | emptyData
  /-- The data is not a code and values after `@` signs. -/
  | unreadableData
  | noReturnCode
  /-- Several events could hold the outcome. -/
  | ambiguous (identifier : String)
deriving DecidableEq, Repr

/-- The fault in words. -/
def Fault.message : Fault → String
  | .emptyData => "empty data field"
  | .unreadableData => "cannot process data field"
  | .noReturnCode => "no return code"
  | .ambiguous identifier => "found more than one event with identifier '" ++ identifier ++ "'"

end TxInspect.Outcome
