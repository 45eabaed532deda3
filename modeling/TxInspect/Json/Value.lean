import TxInspect.Json.Machine

/-!
# JSON values

A `Json` value has numbers as they are written, strings as texts, and objects without duplicate
keys: of several members with one key the last one counts (`put`). `Json.ofText` reads a whole
document; it refuses lone surrogates, numbers beyond every double, and arrays and objects nested
deeper than `maxDepth`. The faults come in the order of the text.
-/

namespace TxInspect

/-- A JSON value. -/
inductive Json where
  | null
  | bool (b : Bool)
  | number (n : Json.Numeral)
  | text (s : String)
  | array (items : List Json)
  | object (members : List (String × Json))

namespace Json

/-- How deep arrays and objects may be nested. -/
def maxDepth : Nat := 127

/-- Sets a member, in the place of one with the same key or else at the end. -/
def put (name : String) (value : Json) : List (String × Json) → List (String × Json)
  | [] => [(name, value)]
  | (n, v) :: ms => if n = name then (name, value) :: ms else (n, v) :: put name value ms

/-- The members in order, the last of several with one key in the place of the first. -/
def ofMembers (members : List (String × Json)) : Json :=
  .object (members.foldl (fun ms m => put m.1 m.2 ms) [])

/-- The member of an object with a key. -/
def member? (name : String) : Json → Option Json
  | .object ms => ms.lookup name
  | _ => none

/-- The text of a written string. -/
def Literal.read (q : Literal) : Except Fault String :=
  match q.text? with
  | some s => .ok s
  | none => .error .malformed

mutual

/-- The value, in which arrays and objects may be nested `depth` deep. -/
def Node.value (depth : Nat) : Node → Except Fault Json
  | .null => .ok .null
  | .bool b => .ok (.bool b)
  | .number n => if n.isOutOfRange then .error .malformed else .ok (.number n)
  | .text q => q.read.map .text
  | .array items ending =>
    match depth with
    | 0 => .error .malformed
    | depth + 1 => do
      let values ← Node.values depth items
      readEnd ending
      return .array values
  | .object members ending =>
    match depth with
    | 0 => .error .malformed
    | depth + 1 => do
      let values ← Node.memberValues depth members
      readEnd ending
      return ofMembers values
  | .broken b => .error b.read
termination_by structural node => node

/-- The values of the items of an array. -/
def Node.values (depth : Nat) : List Node → Except Fault (List Json)
  | [] => .ok []
  | node :: nodes => do
    let value ← node.value depth
    let values ← Node.values depth nodes
    return value :: values
termination_by structural nodes => nodes

/-- The values of the members of an object. -/
def Node.memberValues (depth : Nat) : List (Literal × Node) → Except Fault (List (String × Json))
  | [] => .ok []
  | (key, node) :: members => do
    let name ← key.read
    let value ← node.value depth
    let values ← Node.memberValues depth members
    return (name, value) :: values
termination_by structural members => members

end

/-- Reads a document. -/
def ofText (text : List UInt8) : Except Fault Json := do
  let s := scan text
  let value ← s.root.value maxDepth
  if s.hasMore then .error .malformed else return value

end Json

end TxInspect
