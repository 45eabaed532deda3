import TxInspect.Text.Quoted

/-!
# Log entries

An entry has a level, the part of the program it comes from, a message and named fields (`Entry`).
On a line (`Entry.line`) texts are quoted and all other fields stand as they are. The time and the
colors of a line are left to those who write the log.
-/

namespace TxInspect.Log

/-- How important an entry is, the most important level first. -/
inductive Level where
  | error
  | warn
  | info
  | debug
  | trace
deriving DecidableEq, Repr

namespace Level

/-- The name of a level on a line. -/
def name : Level → String
  | .error => "ERROR"
  | .warn => "WARN"
  | .info => "INFO"
  | .debug => "DEBUG"
  | .trace => "TRACE"

/-- The place of a level, from 1 for the most important. -/
def rank : Level → Nat
  | .error => 1
  | .warn => 2
  | .info => 3
  | .debug => 4
  | .trace => 5

end Level

/-- The value of a field. -/
inductive Field where
  /-- A text, which a line quotes. -/
  | text (s : String)
  /-- A value in the form in which it is shown. -/
  | shown (s : String)
deriving DecidableEq, Repr

/-- The value without quotes. -/
def Field.plain : Field → String
  | .text s => s
  | .shown s => s

/-- The value on a line. -/
def Field.onLine : Field → String
  | .text s => Text.quoted s
  | .shown s => s

/-- A log entry. -/
structure Entry where
  level : Level
  target : String
  message : String
  fields : List (String × Field)
deriving DecidableEq, Repr

/-- The entry as a line, without time, colors and a line break. -/
def Entry.line (e : Entry) : String :=
  e.level.name ++ " " ++ e.target ++ ": " ++ e.message
    ++ String.join (e.fields.map fun f => " " ++ f.1 ++ "=" ++ f.2.onLine)

end TxInspect.Log
