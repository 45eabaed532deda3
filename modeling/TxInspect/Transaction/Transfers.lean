import TxInspect.Number.Hexadecimal
import TxInspect.Transaction.Fault
import TxInspect.Transaction.Metadata

/-!
# Token transfers

A call to one of three functions moves tokens, and its arguments say which, how many and to whom. A
transfer is `recognized?` from the call: the answer describes the movement and keeps the arguments
that are left over as the call that follows it. Two of the functions are called on the sender itself
and are no transfers otherwise. A malformed argument of a transfer is a fault.
-/

namespace TxInspect.Transaction

/-- The text that an argument states. -/
def hexText (argument : Argument) (arg : String) : Except Fault String :=
  match Hex.ofText arg with
  | .ok bs => .ok (Utf8.lossy bs)
  | .error cause => .error (.badHex argument cause)

/-- The amount that an argument states. -/
def hexAmount (argument : Argument) (arg : String) : Except Fault Nat :=
  match Hexadecimal.amount? arg with
  | some n => .ok n
  | none => .error (.badNumber argument arg)

/-- The address that an argument states in hexadecimal, as bech32. -/
def hexAddress (format : Address.Format) (arg : String) : Except Fault String :=
  (format.encodeHex arg).mapError .address

/-- Refuses an argument that is no address of the right length. -/
def checkAddress (format : Address.Format) (arg : String) : Except Fault Unit :=
  match Hex.ofText arg with
  | .ok bs => if bs.length = format.size then .ok () else .error .badAddress
  | .error _ => .error .badAddress

/-- The transaction with the call that its left-over arguments make: a function name in hexadecimal
and its arguments. -/
def withInnerCall (m : Metadata) : List String → Except Fault Metadata
  | [] => .ok m
  | function :: args => do
    let name ← hexText .functionName function
    return m.withCall name args

/-- A fungible transfer: token, amount, and a call. -/
def fungibleTransfer (m : Metadata) : List String → Except Fault Metadata
  | token :: amount :: rest => do
    let token ← hexText .tokenIdentifier token
    let value ← hexAmount .tokenValue amount
    let moved ← withInnerCall (.plain m.sender m.receiver value) rest
    return { moved with transfers := [⟨value, .fungible token⟩] }
  | args => .error (.fewArguments .fungible 2 args.length)

/-- A transfer of one token of a collection: collection, nonce, amount, receiver, and a call. -/
def nonFungibleTransfer (format : Address.Format) (m : Metadata) :
    List String → Except Fault Metadata
  | collection :: nonce :: amount :: receiver :: rest => do
    checkAddress format receiver
    let collection ← hexText .collectionIdentifier collection
    let value ← hexAmount .tokenValue amount
    let receiver ← hexAddress format receiver
    let moved ← withInnerCall (.plain m.sender receiver value) rest
    return { moved with transfers := [⟨value, .nonFungible collection nonce⟩] }
  | args => .error (.fewArguments .nonFungible 4 args.length)

/-- The elements in groups of three, without those left over. -/
def triples {α : Type} : List α → List (α × α × α)
  | a :: b :: c :: rest => (a, b, c) :: triples rest
  | _ => []

/-- One transfer of many: token, nonce and amount. A nonce that is no positive number of 63 bits
means a fungible token. -/
def groupTransfer : String × String × String → Except Fault TokenTransfer
  | (token, nonce, amount) => do
    let name ← hexText .transferIdentifier token
    let value ← hexAmount .transferValue amount
    match Hexadecimal.nonce? nonce with
    | some _ => return ⟨value, .nonFungible name nonce⟩
    | none => return ⟨value, .fungible name⟩

/-- How many arguments `count` transfers take, as a word of 64 bits: a greater number counts as the
greatest word. -/
def requiredArguments (count : Nat) : Nat :=
  min (2 + 3 * count) (Word.limit 64 - 1)

/-- Several transfers to one receiver: receiver, number, a group for each transfer, and a call. -/
def multipleTransfer (format : Address.Format) (m : Metadata) :
    List String → Except Fault Metadata
  | receiver :: number :: first :: rest => do
    let args := first :: rest
    checkAddress format receiver
    let receiver ← hexAddress format receiver
    let some count := Hexadecimal.count? number | .error (.badNumber .transferCount number)
    let required := requiredArguments count
    if args.length + 2 < required then .error (.fewArguments .multiple required (args.length + 2))
    let transfers ← (triples (args.take (required - 2))).mapM groupTransfer
    let moved ← withInnerCall (.plain m.sender receiver 0) (args.drop (required - 2))
    return { moved with transfers := transfers }
  | args => .error (.fewArguments .multiple 3 args.length)

/-- The call's own arguments, if the transaction is a transfer of a kind. -/
def transferArguments? (kind : TransferKind) (m : Metadata) : Option (List String) :=
  match kind with
  | .fungible => m.argumentsOf? kind.function
  | _ => if m.sender = m.receiver then m.argumentsOf? kind.function else none

/-- The transfer that the arguments state. -/
def transfer (format : Address.Format) (m : Metadata) (args : List String) :
    TransferKind → Except Fault Metadata
  | .fungible => fungibleTransfer m args
  | .nonFungible => nonFungibleTransfer format m args
  | .multiple => multipleTransfer format m args

/-- The transaction as a transfer of a kind, or nothing if it is none. -/
def recognized? (kind : TransferKind) (format : Address.Format) (m : Metadata) :
    Except Fault (Option Metadata) :=
  match transferArguments? kind m with
  | none => .ok none
  | some args => (transfer format m args kind).map some

end TxInspect.Transaction
