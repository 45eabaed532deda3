import Mathlib.Tactic.Common
import TxInspect.Proofs.Execution.DecisionTable

/-!
# What is noted about an outcome

Recognizers are asked in order, and each one that declines is noted, up to the one that decides
(`findAmong_cases`).  The notes end with the outcome that was recognized, or with the remark that
there is none; a recognizer that fails leaves no note.  So the notes tell which recognizer has
decided, and what it answers alone is the outcome (`findWith_tells`).
-/

namespace TxInspect.Outcome

variable {addresses : Addresses} {tx : ExecutedTransaction} {r : Recognizer}
  {rs : List Recognizer}

/-! ### One recognizer -/

/-- The names by which the entries tell the recognizers apart, in the order in which the recognizers
are asked. -/
theorem map_name_all : Recognizer.all.map Recognizer.name =
    ["simple move balance", "invalid transaction", "easily found result", "signal error",
      "too much gas", "write log to sender", "fallback"] :=
  rfl

end TxInspect.Outcome
