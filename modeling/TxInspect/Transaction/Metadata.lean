/-!
# What a transaction does

The description of a transaction (`Metadata`): who sends how much to whom, which function is called
with which arguments, and which tokens are moved.
-/

namespace TxInspect

/-- The token that a transfer moves: a fungible token by its name, any other one by its collection
and its identifier in it. What does not apply is empty. -/
structure Token where
  token : String
  collection : String
  identifier : String
deriving DecidableEq, Repr

namespace Token

/-- A fungible token. -/
def fungible (name : String) : Token := ⟨name, "", ""⟩

/-- The token of a collection with a nonce, given as hexadecimal text. -/
def nonFungible (collection nonce : String) : Token := ⟨"", collection, collection ++ "-" ++ nonce⟩

end Token

/-- A movement of tokens. -/
structure TokenTransfer where
  value : Nat
  token : Token
deriving DecidableEq, Repr

/-- The description of a transaction. -/
structure Metadata where
  sender : String
  receiver : String
  value : Nat
  /-- The function that is called, if the data field is a call. -/
  functionName : Option String
  /-- The arguments in hexadecimal, if the data field is a call. -/
  functionArgs : Option (List String)
  transfers : List TokenTransfer
deriving DecidableEq, Repr

namespace Metadata

/-- A transaction that only moves an amount. -/
def plain (sender receiver : String) (value : Nat) : Metadata where
  sender := sender
  receiver := receiver
  value := value
  functionName := none
  functionArgs := none
  transfers := []

/-- The function that is called and its arguments. -/
def call? (m : Metadata) : Option (String × List String) :=
  match m.functionName, m.functionArgs with
  | some name, some args => some (name, args)
  | _, _ => none

/-- The same transaction with a call. -/
def withCall (m : Metadata) (name : String) (args : List String) : Metadata :=
  { m with functionName := some name, functionArgs := some args }

/-- The arguments of a call to the given function. -/
def argumentsOf? (m : Metadata) (function : String) : Option (List String) :=
  match m.call? with
  | some (name, args) => if name = function then some args else none
  | none => none

end Metadata

end TxInspect
