/-!
# Return codes

How a contract call ended. Every code has a text (`ReturnCode.text`), and every text is the text of
exactly one code (`ofText`): texts outside the vocabulary are codes of their own.
-/

namespace TxInspect

/-- How a contract call ended. -/
inductive ReturnCode where
  /-- No contract was called. -/
  | none
  | ok
  | functionNotFound
  | functionWrongSignature
  | contractNotFound
  | userError
  | outOfGas
  | accountCollision
  | outOfFunds
  | callStackOverflow
  | contractInvalid
  | executionFailed
  | upgradeFailed
  | simulateFailed
  /-- A code outside the vocabulary. -/
  | other (text : String)
deriving DecidableEq, Repr

namespace ReturnCode

/-- The text of a code. -/
def text : ReturnCode → String
  | .none => ""
  | .ok => "ok"
  | .functionNotFound => "function not found"
  | .functionWrongSignature => "wrong signature for function"
  | .contractNotFound => "contract not found"
  | .userError => "user error"
  | .outOfGas => "out of gas"
  | .accountCollision => "account collision"
  | .outOfFunds => "out of funds"
  | .callStackOverflow => "call stack overflow"
  | .contractInvalid => "contract invalid"
  | .executionFailed => "execution failed"
  | .upgradeFailed => "upgrade failed"
  | .simulateFailed => "simulate failed"
  | .other text => text

/-- The codes of the vocabulary. -/
def known : List ReturnCode := [
  .none, .ok, .functionNotFound, .functionWrongSignature, .contractNotFound, .userError, .outOfGas,
  .accountCollision, .outOfFunds, .callStackOverflow, .contractInvalid, .executionFailed,
  .upgradeFailed, .simulateFailed]

/-- The code with a text. -/
def ofText (s : String) : ReturnCode :=
  match known.find? (·.text = s) with
  | some code => code
  | .none => .other s

/-- The call went well, or there was none. -/
def isSuccess : ReturnCode → Bool
  | .none | .ok => true
  | _ => false

end ReturnCode

end TxInspect
