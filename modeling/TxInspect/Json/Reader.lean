import TxInspect.Json.Value

/-!
# Reading records from JSON

A `Reader` takes a typed value either out of a `Json` value or straight out of a text. The two
differ in what they refuse. A value that has been read whole is known to be JSON, and only its shape
can be wrong. A text is read from left to right: the first fault counts, whatever nobody asked for
is only skipped, and a field given twice is refused at its second key.

A `Record` is read from an object, or from an array of its fields in order (`Record.reader`).
Records are put together from fields as an applicative functor.
-/

namespace TxInspect.Json

/-- How a value of type `α` is read. -/
structure Reader (α : Type) where
  ofValue : Json → Option α
  ofNode : Node → Except Fault α

/-- An answer, or else a value of the wrong shape. -/
def orMismatch {α : Type} : Option α → Except Fault α
  | some a => .ok a
  | none => .error .mismatch

/-- The fault of a value that has the wrong shape: an array or object at once, and any other value
after it has been read. -/
def Node.refuse {α : Type} (node : Node) : Except Fault α :=
  match node with
  | .array _ _ | .object _ _ => .error .mismatch
  | node => node.value 0 >>= fun _ => .error .mismatch

namespace Reader

variable {α β : Type}

/-- Reads from text as `ofNode` does, and refuses what follows the value. -/
def ofText (r : Reader α) (text : List UInt8) : Except Fault α := do
  let s := scan text
  let a ← r.ofNode s.root
  if s.hasMore then .error .malformed else return a

/-- A value without parts. -/
def scalar (f : Json → Option α) : Reader α where
  ofValue := f
  ofNode
    | .array _ _ | .object _ _ => .error .mismatch
    | node => node.value 0 >>= fun value => orMismatch (f value)

/-- A value that is read whole, arrays and objects in it nested `depth` deep, before its shape is
looked at. -/
def whole (depth : Nat) (f : Json → Option α) : Reader α where
  ofValue := f
  ofNode node := node.value depth >>= fun value => orMismatch (f value)

/-- A string. -/
def text : Reader String :=
  scalar fun
    | .text s => some s
    | _ => none

/-- An integer in digits alone, below `bound`. -/
def unsigned (bound : Nat) : Reader Nat :=
  scalar fun
    | .number n => n.unsigned?.filter (· < bound)
    | _ => none

/-- Also `null`, as `none`. -/
def optional (r : Reader α) : Reader (Option α) where
  ofValue
    | .null => some none
    | value => (r.ofValue value).map some
  ofNode
    | .null => .ok none
    | node => (r.ofNode node).map some

/-- What `f` makes of a value that has been read. -/
def refine (r : Reader α) (f : α → Option β) : Reader β where
  ofValue value := r.ofValue value >>= f
  ofNode node := r.ofNode node >>= fun a => orMismatch (f a)

/-- Also `null`, as a default. -/
def nullable (r : Reader α) (default : α) : Reader α :=
  r.optional.refine fun a => some (a.getD default)

/-- An array. -/
def list (r : Reader α) : Reader (List α) where
  ofValue
    | .array items => items.mapM r.ofValue
    | _ => none
  ofNode
    | .array items ending => do
      let values ← items.mapM r.ofNode
      readEnd ending
      return values
    | node => node.refuse

end Reader

/-- How the fields of a record are read. -/
structure Record (α : Type) where
  /-- The names of the fields in order, each with a check of its value. -/
  fields : List (String × (Node → Except Fault Unit))
  ofValues : (String → Option Json) → Option α
  ofNodes : (String → Option Node) → Except Fault α

namespace Record

variable {α β : Type}

/-- A record of one field, which may be missing if there is a default. -/
def field (name : String) (r : Reader α) (default : Option α) : Record α where
  fields := [(name, fun node => r.ofNode node >>= fun _ => .ok ())]
  ofValues get :=
    match get name with
    | some value => r.ofValue value
    | none => default
  ofNodes get :=
    match get name with
    | some node => r.ofNode node
    | none => orMismatch default

instance : Applicative Record where
  pure a := ⟨[], fun _ => some a, fun _ => .ok a⟩
  seq f a :=
    let a := a ()
    ⟨f.fields ++ a.fields, fun get => f.ofValues get <*> a.ofValues get,
      fun get => f.ofNodes get <*> a.ofNodes get⟩

/-- Goes over the members of an object: the fields among them, each checked. -/
def findMembers (r : Record α) (seen : List String) :
    List (Literal × Node) → Except Fault (List (String × Node))
  | [] => .ok []
  | (key, node) :: members => do
    let name ← key.read
    match r.fields.lookup name with
    | none =>
      node.skip
      findMembers r seen members
    | some check =>
      if seen.contains name then .error .mismatch
      check node
      let found ← findMembers r (name :: seen) members
      return (name, node) :: found

/-- Goes over the items of an array: as many of them as there are fields, each checked. -/
def findItems (ending : Option Break) :
    List (String × (Node → Except Fault Unit)) → List Node → Except Fault (List (String × Node))
  | [], [] => (readEnd ending).map fun _ => []
  | [], _ :: _ => .error .malformed
  | _ :: _, [] => (readEnd ending).map fun _ => []
  | (name, check) :: fields, node :: nodes => do
    check node
    let found ← findItems ending fields nodes
    return (name, node) :: found

/-- Reads a record. -/
def reader (r : Record α) : Reader α where
  ofValue
    | .object members => r.ofValues (members.lookup ·)
    | .array items =>
      if items.length ≤ r.fields.length then
        r.ofValues (((r.fields.map Prod.fst).zip items).lookup ·)
      else none
    | _ => none
  ofNode
    | .object members ending => do
      let found ← r.findMembers [] members
      readEnd ending
      r.ofNodes (found.lookup ·)
    | .array items ending => do
      let found ← findItems ending r.fields items
      r.ofNodes (found.lookup ·)
    | node => node.refuse

end Record

end TxInspect.Json
