import TxInspect.Address
import TxInspect.Codec.Base64
import TxInspect.Json.Fault

/-!
# Why a transaction cannot be described

The causes (`Transaction.Fault`) and their wording (`Fault.message`).
-/

namespace TxInspect.Transaction

/-- The calls that move tokens. -/
inductive TransferKind where
  | fungible
  | nonFungible
  | multiple
deriving DecidableEq, Repr

/-- The function that is called to move tokens. -/
def TransferKind.function : TransferKind → String
  | .fungible => "ESDTTransfer"
  | .nonFungible => "ESDTNFTTransfer"
  | .multiple => "MultiESDTNFTTransfer"

/-- What an argument of a call means. -/
inductive Argument where
  | relayedPayload
  | relayedData
  | tokenIdentifier
  | collectionIdentifier
  | transferIdentifier
  | functionName
  | tokenValue
  | transferValue
  | transferCount
deriving DecidableEq, Repr

/-- The meaning in words. -/
def Argument.words : Argument → String
  | .relayedPayload => "relayed payload"
  | .relayedData => "relayed data"
  | .tokenIdentifier => "token identifier"
  | .collectionIdentifier => "collection identifier"
  | .transferIdentifier => "transfer identifier"
  | .functionName => "function name"
  | .tokenValue => "token value"
  | .transferValue => "transfer value"
  | .transferCount => "transfer count"

/-- Why a transaction cannot be described. -/
inductive Fault where
  /-- The amount is not decimal. -/
  | badValue
  | badData (cause : Base64.Fault)
  | badHex (argument : Argument) (cause : Hex.Fault)
  | badNumber (argument : Argument) (text : String)
  | fewArguments (kind : TransferKind) (required found : Nat)
  /-- An argument has not the length of an address. -/
  | badAddress
  | address (cause : Address.Fault)
  /-- The transaction in an envelope is not readable. -/
  | badPayload (cause : Json.Fault)
  /-- There are more envelopes than allowed. -/
  | tooDeep (max : Nat)
deriving DecidableEq, Repr

namespace Fault

/-- The fault in words. -/
def message (wording : Json.Wording) : Fault → String
  | .badValue => "failed to set value"
  | .badData cause => "failed to decode transaction data: " ++ cause.message
  | .badHex argument cause => "failed to decode " ++ argument.words ++ ": " ++ cause.message
  | .badNumber argument text =>
    "failed to parse " ++ argument.words ++ " as a base-16 integer: '" ++ text ++ "'"
  | .fewArguments kind required found =>
    "not enough arguments for " ++ kind.function ++ ": required [" ++ Decimal.text required
      ++ "], found [" ++ Decimal.text found ++ "]"
  | .badAddress => "invalid address"
  | .address cause => cause.message
  | .badPayload cause => "failed to unmarshal inner transaction: " ++ wording cause
  | .tooDeep max =>
    "relayed transaction nesting exceeds the maximum depth of " ++ Decimal.text max

/-- The texts of the faults that lie under this one, the nearest first. -/
def causes (wording : Json.Wording) : Fault → List String
  | .badData cause => [cause.message]
  | .badHex _ cause => [cause.message]
  | .address cause => cause.cause?.toList
  | .badPayload cause => [wording cause]
  | _ => []

end Fault

end Transaction

end TxInspect
