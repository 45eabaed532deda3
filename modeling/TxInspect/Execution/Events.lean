import TxInspect.Execution.Basic
import TxInspect.Execution.Fault

/-!
# Looking for events

A recognizer of outcomes wants the only event of a kind. `single?` finds it, and refuses to choose
when there are several.
-/

namespace TxInspect.Event

/-- The identifier of the event that tells of an error. -/
def signalError : String := "signalError"

/-- The identifier of the event that a contract writes its return data to. -/
def writeLog : String := "writeLog"

/-- The start of the topic that warns of too much gas. -/
def tooMuchGas : String := "@too much gas"

/-- The first topic with a property. -/
def findTopic (e : Event) (p : List UInt8 → Bool) : Option (List UInt8) :=
  e.topics.find? p

/-- The last topic as a text. -/
def lastTopic? (e : Event) : Option String :=
  e.topics.getLast?.map Utf8.lossy

/-- The only event with an identifier and a property. -/
def single? (identifier : String) (p : Event → Bool) (events : List Event) :
    Except Outcome.Fault (Option Event) :=
  match events.filter fun e => e.identifier = identifier && p e with
  | [] => .ok none
  | [e] => .ok (some e)
  | _ => .error (.ambiguous identifier)

end TxInspect.Event
