import Mathlib.Tactic.Common
import TxInspect.Proofs.Address.Validity
import TxInspect.Proofs.Transaction.Arguments
import TxInspect.Proofs.Transaction.Recognizers

/-!
# Single transfers

A data field that makes the call of a kind of transfer is described as this transfer
(`result_describe_transfer`).  So what is written into the data field of a single transfer (token,
amount, nonce and receiver, and a call that follows) stands in its description again
(`describe_single`).
-/

namespace TxInspect.Transaction

variable {format : Address.Format} {m : Metadata} {kind : TransferKind} {args : List String}

/-! ### The call of a transfer -/

theorem separator_notMem_function (kind : TransferKind) : separator ∉ kind.function.toList := by
  cases kind <;> decide

/-- The call of a transfer is no envelope. -/
theorem unwrap?_withCall_function (format : Address.Format) (m : Metadata) (kind : TransferKind)
    (args : List String) : unwrap? format (m.withCall kind.function args) = .ok none := by
  apply unwrap?_of_not_isEnvelope format (call?_withCall m kind.function args)
  rintro (⟨h, -⟩ | ⟨h, -⟩) <;> cases kind <;> exact absurd h (by decide)

/-- A data field that makes the call of a transfer is described as this transfer. -/
theorem result_describe_transfer (settings : Settings) (kind : TransferKind)
    (sender receiver : String) {amount : String} {value : Nat}
    (hvalue : readValue amount = .ok value) (nonempty : args ≠ [])
    (hex : ∀ arg ∈ args, Hex.isText arg = true) (allowed : kind = .fungible ∨ sender = receiver) :
    (describe settings
        ⟨sender, receiver, Base64.toText (callBytes kind.function args), amount⟩).result =
      transfer settings.format
        ((Metadata.plain sender receiver value).withCall kind.function args) args kind := by
  have outer : (describeOuter
      ⟨sender, receiver, Base64.toText (callBytes kind.function args), amount⟩).result =
        .ok ((Metadata.plain sender receiver value).withCall kind.function args) :=
    result_describeOuter_of_callBytes hvalue (Base64.ofText_toText _) nonempty
      (separator_notMem_function kind) hex
  have call := call?_withCall (.plain sender receiver value) kind.function args
  have closed := unwrap?_withCall_function settings.format (.plain sender receiver value) kind args
  exact (result_describeWith_of_unwrap?_none outer closed _).trans
    (withTransfer_of_transferArguments? settings.format
      (transferArguments?_eq_some_iff.2 ⟨call, allowed⟩))

/-! ### Arguments of single transfers -/

/-- The arguments that state a call, if one follows. -/
def followingArgs : Option (String × List String) → List String
  | none => []
  | some (function, args) => Hex.toText (Utf8.bytes function) :: args

variable {following : Option (String × List String)}

theorem isText_toText (bs : List UInt8) : Hex.isText (Hex.toText bs) = true :=
  Results.isOk_iff.2 ⟨bs, Hex.ofText_toText bs⟩

theorem argumentText_toText (text : String) :
    argumentText (Hex.toText (Utf8.bytes text)) = text :=
  argumentText_of_ofText (Hex.ofText_toText _)

theorem isText_of_mem_followingArgs
    (h : ∀ call ∈ following, ∀ arg ∈ call.2, Hex.isText arg = true) :
    ∀ arg ∈ followingArgs following, Hex.isText arg = true := by
  cases following with
  | none => simp [followingArgs]
  | some call =>
    rw [followingArgs]
    exact List.forall_mem_cons.2 ⟨isText_toText _, h call rfl⟩

/-- The call that follows can be read from the arguments that state it. -/
theorem followedBy_followingArgs (sender receiver : String) (value : Nat)
    (following : Option (String × List String)) (transfers : List TokenTransfer) :
    { followedBy (.plain sender receiver value) (followingArgs following) with
      transfers := transfers } =
      (⟨sender, receiver, value, following.map Prod.fst, following.map Prod.snd, transfers⟩ :
        Metadata) := by
  cases following with
  | none => rfl
  | some call =>
    rw [followingArgs, followedBy, argumentText_toText]
    rfl

section Arguments

variable {token nonce amount receiver : String} {rest : List String}

theorem fungibleTransfer_of_isText (m : Metadata) (htoken : Hex.isText token = true)
    (hamount : Hex.isText amount = true) (nonempty : amount ≠ "")
    (hrest : ∀ arg ∈ rest, Hex.isText arg = true) :
    fungibleTransfer m (token :: amount :: rest) =
      .ok { followedBy (.plain m.sender m.receiver (argumentNumber amount)) rest with
        transfers := [⟨argumentNumber amount, .fungible (argumentText token)⟩] } := by
  rw [fungibleTransfer, hexText_of_isText htoken, hexAmount_of_isText hamount, if_neg nonempty]
  dsimp only [bind, Except.bind]
  rw [withInnerCall_of_isText hrest]
  rfl

theorem nonFungibleTransfer_of_isText (m : Metadata) (htoken : Hex.isText token = true)
    (hamount : Hex.isText amount = true) (nonempty : amount ≠ "")
    (hreceiver : Hex.isText receiver = true) {text : String}
    (encoded : format.encode (argumentBytes receiver) = .ok text)
    (hrest : ∀ arg ∈ rest, Hex.isText arg = true) :
    nonFungibleTransfer format m (token :: nonce :: amount :: receiver :: rest) =
      .ok { followedBy (.plain m.sender text (argumentNumber amount)) rest with
        transfers := [⟨argumentNumber amount, .nonFungible (argumentText token) nonce⟩] } := by
  have size := ((format.encode_eq_ok_iff _).1 ⟨text, encoded⟩).1
  rw [nonFungibleTransfer, checkAddress_of_isText format hreceiver, if_pos size,
    hexText_of_isText htoken, hexAmount_of_isText hamount, if_neg nonempty,
    hexAddress_of_isText format hreceiver, encoded]
  dsimp only [bind, Except.bind, Except.mapError]
  rw [withInnerCall_of_isText hrest]
  rfl

end Arguments

/-! ### From the data field to the description -/

/-- What is written into the data field of a single transfer stands in the description of the
transaction: the text of a token, a number in at least one pair of digits, and the call that
follows, if there is one.  The tokens move from the sender to the receiver, or, if the transaction
is sent to its own sender and has a nonce in its data field, to the address in the data field. -/
theorem describe_single (settings : Settings) (valid : settings.format.IsValid)
    {amount : String} {value : Nat} (hvalue : readValue amount = .ok value)
    (token digits : String) (isRun : Hex.IsRun digits.toList) (nonempty : digits ≠ "") {moved : Nat}
    (number : Hexadecimal.number digits.toList = moved) (following : Option (String × List String))
    (hex : ∀ call ∈ following, ∀ arg ∈ call.2, Hex.IsRun arg.toList) :
    (∀ sender receiver,
      (describe settings ⟨sender, receiver, Base64.toText (callBytes "ESDTTransfer"
          (Hex.toText (Utf8.bytes token) :: digits :: followingArgs following)), amount⟩).result =
        .ok ⟨sender, receiver, moved, following.map Prod.fst, following.map Prod.snd,
          [⟨moved, ⟨token, "", ""⟩⟩]⟩) ∧
    ∀ sender nonce bs, Hex.IsRun nonce.toList → bs.length = settings.addressSize →
      ∃ receiver, settings.format.encode bs = .ok receiver ∧
        (describe settings ⟨sender, sender, Base64.toText (callBytes "ESDTNFTTransfer"
            (Hex.toText (Utf8.bytes token) :: nonce :: digits :: Hex.toText bs ::
              followingArgs following)), amount⟩).result =
          .ok ⟨sender, receiver, moved, following.map Prod.fst, following.map Prod.snd,
            [⟨moved, ⟨"", token, token ++ "-" ++ nonce⟩⟩]⟩ := by
  subst number
  have hv : Hex.isText digits = true := (Hex.isText_iff digits).2 isRun
  have hrest : ∀ arg ∈ followingArgs following, Hex.isText arg = true :=
    isText_of_mem_followingArgs fun call hcall arg harg =>
      (Hex.isText_iff arg).2 (hex call hcall arg harg)
  have htoken := isText_toText (Utf8.bytes token)
  constructor
  · intro sender receiver
    have args : ∀ arg ∈ Hex.toText (Utf8.bytes token) :: digits :: followingArgs following,
        Hex.isText arg = true :=
      List.forall_mem_cons.2 ⟨htoken, List.forall_mem_cons.2 ⟨hv, hrest⟩⟩
    have described := result_describe_transfer settings .fungible sender receiver hvalue
      (List.cons_ne_nil _ _) args (Or.inl rfl)
    rw [transfer, fungibleTransfer_of_isText _ htoken hv nonempty hrest, argumentText_toText,
      followedBy_followingArgs] at described
    exact described
  · intro sender nonce bs hnonce size
    obtain ⟨receiver, encoded⟩ := (Address.Format.isValid_iff _).1 valid bs size
    have hreceiver := isText_toText bs
    have args : ∀ arg ∈ Hex.toText (Utf8.bytes token) :: nonce :: digits :: Hex.toText bs ::
        followingArgs following, Hex.isText arg = true :=
      List.forall_mem_cons.2 ⟨htoken, List.forall_mem_cons.2 ⟨(Hex.isText_iff nonce).2 hnonce,
        List.forall_mem_cons.2 ⟨hv, List.forall_mem_cons.2 ⟨hreceiver, hrest⟩⟩⟩⟩
    have described := result_describe_transfer settings .nonFungible sender sender hvalue
      (List.cons_ne_nil _ _) args (Or.inr rfl)
    have own : settings.format.encode (argumentBytes (Hex.toText bs)) = .ok receiver := by
      rw [argumentBytes_of_ofText (Hex.ofText_toText bs), encoded]
    rw [transfer, nonFungibleTransfer_of_isText _ htoken hv nonempty hreceiver own hrest,
      argumentText_toText, followedBy_followingArgs] at described
    exact ⟨receiver, encoded, described⟩

/-- A token outside of ASCII, an amount with leading zeros, and a call with two arguments.  The data
fields hold `ESDTTransfer@c3a9@00fF@66@@0a` and `ESDTNFTTransfer@c3a9@0B@00fF@07@66@@0a`. -/
theorem describe_single_sample :
    (describe ⟨"erd", 1, 0⟩
        ⟨"a", "b", "RVNEVFRyYW5zZmVyQGMzYTlAMDBmRkA2NkBAMGE=", "5"⟩).result =
      .ok ⟨"a", "b", 255, some "f", some ["", "0a"], [⟨255, ⟨"é", "", ""⟩⟩]⟩ ∧
    ∃ receiver, (Address.Format.ofPrefix "erd" 1).encode [7] = .ok receiver ∧
      (describe ⟨"erd", 1, 0⟩
          ⟨"a", "a", "RVNEVE5GVFRyYW5zZmVyQGMzYTlAMEJAMDBmRkAwN0A2NkBAMGE=", "5"⟩).result =
        .ok ⟨"a", receiver, 255, some "f", some ["", "0a"], [⟨255, ⟨"", "é", "é-0B"⟩⟩]⟩ := by
  have valid : (Settings.format ⟨"erd", 1, 0⟩).IsValid := by decide
  have value : readValue "5" = .ok 5 := by decide
  have isRun : Hex.IsRun "00fF".toList := by decide
  have number : Hexadecimal.number "00fF".toList = 255 := by decide
  have hex : ∀ call ∈ some ("f", ["", "0a"]), ∀ arg ∈ call.2, Hex.IsRun arg.toList := by
    rintro _ ⟨⟩
    decide
  obtain ⟨fungible, nonFungible⟩ :=
    describe_single ⟨"erd", 1, 0⟩ valid value "é" "00fF" isRun (by decide) number _ hex
  have written : Base64.toText (callBytes "ESDTTransfer"
      (Hex.toText (Utf8.bytes "é") :: "00fF" :: followingArgs (some ("f", ["", "0a"])))) =
        "RVNEVFRyYW5zZmVyQGMzYTlAMDBmRkA2NkBAMGE=" := by decide +kernel
  have writtenToo : Base64.toText (callBytes "ESDTNFTTransfer"
      (Hex.toText (Utf8.bytes "é") :: "0B" :: "00fF" :: Hex.toText [7] ::
        followingArgs (some ("f", ["", "0a"])))) =
          "RVNEVE5GVFRyYW5zZmVyQGMzYTlAMEJAMDBmRkAwN0A2NkBAMGE=" := by decide +kernel
  rw [← written, ← writtenToo]
  exact ⟨fungible "a" "b", nonFungible "a" "0B" [7] (by decide) rfl⟩

end TxInspect.Transaction
