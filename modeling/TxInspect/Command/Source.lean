import TxInspect.Document
import TxInspect.Failure

/-!
# Where documents come from

A document is given on the command line, in a file or on the standard input (`Source.ofArgument`).
`Source.document` makes a text of what has been found there.
-/

namespace TxInspect.Command

/-- Where a document comes from. -/
inductive Source where
  | stdin
  | file (path : String)
  | inline (text : String)
deriving DecidableEq, Repr

/-- What has been found at a source. -/
inductive Content where
  | missing
  | bytes (bs : List UInt8)
  | unreadable (reason : String)
deriving DecidableEq, Repr

namespace Source

/-- The source that a text names: a text that starts like an object is the document itself, and
every other one is the path of a file. -/
def ofText (s : String) : Source :=
  if (Text.trimStart s.toList).head? = some '\x7B' then .inline s else .file s

/-- The source that an argument names: none and `-` are the standard input. -/
def ofArgument : Option String → Source
  | none => .stdin
  | some s => if s = "-" then .stdin else ofText s

/-- The path of a file. -/
def path? : Source → Option String
  | .file path => some path
  | _ => none

/-- The text that has been found. -/
def found (source : Source) : Content → Except Failure String
  | .missing =>
    match source with
    | .file path => .error (.fileNotFound path)
    | _ => .error .noInput
  | .bytes bs =>
    match Utf8.text? bs with
    | some s => .ok s
    | none => .error (.unreadable source.path? "stream did not contain valid UTF-8")
  | .unreadable reason => .error (.unreadable source.path? reason)

/-- The text of the document, given what has been found at its source. -/
def document (source : Source) (content : Content) : Except Failure String := do
  let s ← match source with
    | .inline s => .ok s
    | source => source.found content
  if Document.isBlank s then .error .noInput else return s

end Source

end TxInspect.Command
