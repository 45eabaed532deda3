/-!
# Faults of JSON texts

A text is cut short, is no JSON, or states a value of another shape than the one that is wanted
(`Fault`). What is said about it is left open (`Wording`). Where a value breaks off, the fault may
depend on whether the value is read or only skipped (`Break`).
-/

namespace TxInspect.Json

/-- What is wrong with a JSON text. -/
inductive Fault where
  /-- The text ends inside a value. -/
  | truncated
  /-- The text is no JSON, or goes on after its value. -/
  | malformed
  /-- The value has the wrong shape. -/
  | mismatch
deriving DecidableEq, Repr

/-- What is said about the fault of a text. It is not fixed here, since it also tells where in the
text the fault lies; a run meets one fault at most. -/
abbrev Wording := Fault → String

/-- The end of a value that is not whole: the fault for a reader of the value, and the fault for
someone who only skips it. -/
structure Break where
  read : Fault
  skipped : Fault
deriving DecidableEq, Repr

/-- The break that is the same fault for everyone. -/
def Break.both (fault : Fault) : Break := ⟨fault, fault⟩

end TxInspect.Json
