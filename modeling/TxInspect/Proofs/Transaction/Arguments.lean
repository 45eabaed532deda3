import Mathlib.Tactic.Common
import TxInspect.Proofs.Number.Hexadecimal
import TxInspect.Proofs.Transaction.Transfers

/-!
# What hexadecimal arguments state

A hexadecimal argument states bytes (`argumentBytes`), the text of these bytes (`argumentText`) and
a number (`argumentNumber`).  The parts of a transfer that read such arguments cannot fail, but for
an amount without digits and an address of a wrong length.  What is left over states the call that
follows (`followedBy`).
-/

namespace TxInspect.Transaction

/-- The bytes that an argument states. -/
def argumentBytes (arg : String) : List UInt8 :=
  (Hex.ofText arg).toOption.getD []

/-- The text that an argument states. -/
def argumentText (arg : String) : String :=
  Utf8.lossy (argumentBytes arg)

/-- The number that an argument states to base sixteen. -/
def argumentNumber (arg : String) : Nat :=
  Hexadecimal.number arg.toList

/-- The transaction with the call that left-over arguments state, if there are any: the name of a
function and its arguments. -/
def followedBy (m : Metadata) : List String → Metadata
  | [] => m
  | function :: args => m.withCall (argumentText function) args

variable {format : Address.Format} {arg : String} {args : List String}

theorem argumentBytes_of_ofText {bs : List UInt8} (h : Hex.ofText arg = .ok bs) :
    argumentBytes arg = bs := by
  rw [argumentBytes, h]
  rfl

theorem ofText_of_isText (hex : Hex.isText arg = true) :
    Hex.ofText arg = .ok (argumentBytes arg) := by
  obtain ⟨bs, hbs⟩ := Results.isOk_iff.1 hex
  rw [argumentBytes_of_ofText hbs, hbs]

/-- A text in hexadecimal states this text. -/
theorem argumentText_of_ofText {text : String} (h : Hex.ofText arg = .ok (Utf8.bytes text)) :
    argumentText arg = text := by
  rw [argumentText, argumentBytes_of_ofText h, Utf8.lossy_bytes]

theorem hexText_of_isText (hex : Hex.isText arg = true) (argument : Argument) :
    hexText argument arg = .ok (argumentText arg) := by
  rw [hexText, ofText_of_isText hex]
  rfl

theorem hexAmount_of_isText (hex : Hex.isText arg = true) (argument : Argument) :
    hexAmount argument arg =
      if arg = "" then .error (.badNumber argument "") else .ok (argumentNumber arg) := by
  rw [hexAmount, Hexadecimal.amount?_of_isDigit ((Hex.isText_iff arg).1 hex).2]
  by_cases empty : arg = ""
  · rw [if_pos empty, if_pos empty, empty]
  · rw [if_neg empty, if_neg empty]
    rfl

theorem checkAddress_of_isText (format : Address.Format) (hex : Hex.isText arg = true) :
    checkAddress format arg =
      if (argumentBytes arg).length = format.size then .ok () else .error .badAddress := by
  rw [checkAddress, ofText_of_isText hex]

theorem hexAddress_of_isText (format : Address.Format) (hex : Hex.isText arg = true) :
    hexAddress format arg = (format.encode (argumentBytes arg)).mapError .address := by
  rw [hexAddress, Address.Format.encodeHex, Address.Format.hexBytes, ofText_of_isText hex]
  rfl

theorem withInnerCall_of_isText (hex : ∀ arg ∈ args, Hex.isText arg = true) (m : Metadata) :
    withInnerCall m args = .ok (followedBy m args) := by
  cases args with
  | nil => rfl
  | cons function args =>
    rw [withInnerCall, hexText_of_isText (hex function List.mem_cons_self)]
    rfl

end TxInspect.Transaction
