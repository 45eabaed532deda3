import TxInspect.Json.Node

/-!
# Reading JSON

A machine takes the bytes of a text one at a time (`State.step`). It holds the arrays and objects
around the value that is being read (`Frame`) and what it expects next (`Task`). Every byte that
does not fit stops it. `scan` runs it over a whole text and gives the value with the place where it
breaks off, if there is one.
-/

namespace TxInspect.Json

/-- An array or object around a value: what came before the value. Lists run backwards. -/
inductive Frame where
  | item (before : List Node)
  | member (before : List (Literal × Node)) (name : Literal)

/-- The array or object when the value in it is not whole. -/
def Frame.breakOff (value : Node) (b : Break) : Frame → Node
  | .item before => .array (value :: before).reverse (some b)
  | .member before name => .object ((name, value) :: before).reverse (some b)

/-- What is expected next. Lists run backwards. -/
inductive Task where
  | value
  /-- The first item of an array, or its end. -/
  | firstItem
  /-- A comma or the end of an array. -/
  | nextItem (before : List Node)
  /-- The first key of an object, or its end. -/
  | firstKey
  /-- A key after a comma. -/
  | key (before : List (Literal × Node))
  /-- A comma or the end of an object. -/
  | nextMember (before : List (Literal × Node))
  /-- The colon after a key. -/
  | colon (before : List (Literal × Node)) (name : Literal)
  /-- More of a key. -/
  | keyText (before : List (Literal × Node)) (q : PartialLiteral)
  /-- More of a string. -/
  | text (q : PartialLiteral)
  /-- More of a number. -/
  | number (n : PartialNumeral)
  /-- The rest of a word, which states a value: its next byte and those after it. -/
  | word (next : UInt8) (rest : List UInt8) (value : Node)

/-- The break at the end of the text. -/
def Task.endOfText : Task → Break
  | .number _ => ⟨.truncated, .malformed⟩
  | .text q | .keyText _ q => ⟨if q.isSpoilt then .malformed else .truncated, .truncated⟩
  | _ => .both .truncated

/-- The value under way when the text breaks off. -/
def Task.breakOff (b : Break) : Task → Node
  | .firstItem => .array [] (some b)
  | .nextItem before => .array before.reverse (some b)
  | .firstKey => .object [] (some b)
  | .key before | .nextMember before | .keyText before _ => .object before.reverse (some b)
  | .colon before name => .object ((name, .broken b) :: before).reverse (some b)
  | .value | .text _ | .number _ | .word _ _ _ => .broken b

/-- The outermost value when the text breaks off. -/
def breakOff (around : List Frame) (task : Task) (b : Break) : Node :=
  around.foldl (fun value frame => frame.breakOff value b) (task.breakOff b)

/-- The machine. -/
inductive State where
  | reading (around : List Frame) (task : Task)
  /-- The value is whole; only white space may follow. -/
  | done (root : Node)
  /-- The text is no JSON: either inside its value or after it. -/
  | stopped (root : Node) (isAfter : Bool)

/-- Space, tab, line feed and carriage return. -/
def isSpace (b : UInt8) : Bool := b == 0x20 || b == 0x09 || b == 0x0A || b == 0x0D

namespace State

/-- Stops at a byte that does not fit. -/
def stop (around : List Frame) (task : Task) : State :=
  .stopped (breakOff around task (.both .malformed)) false

/-- Goes on after a whole value. -/
def afterValue (value : Node) : List Frame → State
  | [] => .done value
  | .item before :: around => .reading around (.nextItem (value :: before))
  | .member before name :: around => .reading around (.nextMember ((name, value) :: before))

/-- Takes the first byte of a value. -/
def startValue (around : List Frame) (b : UInt8) : State :=
  match Digit.decimal? (Digit.ofByte b) with
  | some d => .reading around (.number (.first false d))
  | none =>
    match Digit.ofByte b with
    | '-' => .reading around (.number .afterSign)
    | '\"' => .reading around (.text .empty)
    | '[' => .reading around .firstItem
    | '\x7B' => .reading around .firstKey
    | 'n' => .reading around (.word 0x75 [0x6C, 0x6C] .null)
    | 't' => .reading around (.word 0x72 [0x75, 0x65] (.bool true))
    | 'f' => .reading around (.word 0x61 [0x6C, 0x73, 0x65] (.bool false))
    | _ => stop around .value

/-- Takes a byte that is no white space where a comma or an end is expected. -/
def stepBetween (around : List Frame) (b : UInt8) : Task → State
  | .nextItem before =>
    if b = 0x2C then .reading (.item before :: around) .value
    else if b = 0x5D then afterValue (.array before.reverse none) around
    else stop around (.nextItem before)
  | .nextMember before =>
    if b = 0x2C then .reading around (.key before)
    else if b = 0x7D then afterValue (.object before.reverse none) around
    else stop around (.nextMember before)
  | task => stop around task

/-- Takes a byte after a whole value. -/
def stepAfter (state : State) (b : UInt8) : State :=
  if isSpace b then state
  else match state with
    | .reading around task => stepBetween around b task
    | .done root => .stopped root true
    | .stopped root isAfter => .stopped root isAfter

/-- Takes a byte that is no white space in an array or object, or in front of a value. -/
def stepMark (around : List Frame) (b : UInt8) : Task → State
  | .value => startValue around b
  | .firstItem =>
    if b = 0x5D then afterValue (.array [] none) around else startValue (.item [] :: around) b
  | .firstKey =>
    if b = 0x22 then .reading around (.keyText [] .empty)
    else if b = 0x7D then afterValue (.object [] none) around
    else stop around .firstKey
  | .key before =>
    if b = 0x22 then .reading around (.keyText before .empty)
    else stop around (.key before)
  | .colon before name =>
    if b = 0x3A then .reading (.member before name :: around) .value
    else stop around (.colon before name)
  | task => stepBetween around b task

/-- Takes a byte while a value is being read. -/
def stepReading (around : List Frame) (b : UInt8) : Task → State
  | .keyText before q =>
    match q.step b with
    | .more q => .reading around (.keyText before q)
    | .finished name => .reading around (.colon before name)
    | .broken => stop around (.keyText before q)
  | .text q =>
    match q.step b with
    | .more q => .reading around (.text q)
    | .finished q => afterValue (.text q) around
    | .broken => stop around (.text q)
  | .number n =>
    match n.step b with
    | .more n => .reading around (.number n)
    | .finished => stepAfter (afterValue (.number n.numeral) around) b
    | .broken => stop around (.number n)
  | .word next rest value =>
    if b ≠ next then stop around (.word next rest value)
    else match rest with
      | [] => afterValue value around
      | c :: cs => .reading around (.word c cs value)
  | task => if isSpace b then .reading around task else stepMark around b task

/-- Takes one byte. -/
def step (state : State) (b : UInt8) : State :=
  match state with
  | .reading around task => stepReading around b task
  | .done root => stepAfter (.done root) b
  | .stopped root isAfter => .stopped root isAfter

/-- The machine in front of a text. -/
def start : State := .reading [] .value

end State

/-- What a text states, and whether something else follows its value. -/
structure Scan where
  root : Node
  hasMore : Bool

namespace State

/-- The end of the text inside a value. -/
def endReading (around : List Frame) (task : Task) : Scan :=
  ⟨breakOff around task task.endOfText, false⟩

/-- The end of the text. -/
def finish : State → Scan
  | .reading around (.number n) =>
    if n.isWhole then
      match afterValue (.number n.numeral) around with
      | .reading around task => endReading around task
      | .done root => ⟨root, false⟩
      | .stopped root isAfter => ⟨root, isAfter⟩
    else endReading around (.number n)
  | .reading around task => endReading around task
  | .done root => ⟨root, false⟩
  | .stopped root isAfter => ⟨root, isAfter⟩

end State

/-- Reads a text. -/
def scan (text : List UInt8) : Scan :=
  (text.foldl State.step .start).finish

end TxInspect.Json
