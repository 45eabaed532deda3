import Mathlib.Tactic.Common
import TxInspect.Proofs.Address.Validity
import TxInspect.Proofs.Transaction.RelayDepth
import TxInspect.Proofs.Transaction.Transfers

/-!
# The shape of a description

Whatever a transaction is, its description has one shape (`Metadata.IsShaped`): a call has a name
and hexadecimal arguments, a token is fungible or belongs to a collection, and an amount that is
moved together with tokens is nothing or theirs.  The envelope or the transfer that it has been
taken from does not show in the shape (`describe_isShaped`), only in the receiver.
-/

namespace TxInspect

namespace Token

/-- A fungible token, or a token of a collection with its nonce in hexadecimal. -/
def IsShaped (t : Token) : Prop :=
  t.collection = "" ∧ t.identifier = "" ∨
    t.token = "" ∧ ∃ nonce : String, Hex.IsRun nonce.toList ∧
      t.identifier = t.collection ++ "-" ++ nonce

theorem isShaped_fungible (name : String) : (fungible name).IsShaped :=
  Or.inl ⟨rfl, rfl⟩

theorem isShaped_nonFungible (collection : String) {nonce : String}
    (h : Hex.isText nonce = true) : (nonFungible collection nonce).IsShaped :=
  Or.inr ⟨rfl, nonce, (Hex.isText_iff nonce).1 h, rfl⟩

end Token

namespace Metadata

/-- The shape of a description. -/
structure IsShaped (m : Metadata) : Prop where
  functionArgs_iff : m.functionName.isSome ↔ m.functionArgs.isSome
  isRun_args : ∀ args ∈ m.functionArgs, ∀ arg ∈ args, Hex.IsRun arg.toList
  token_isShaped : ∀ t ∈ m.transfers, t.token.IsShaped
  value_eq : m.transfers ≠ [] → m.value = 0 ∨ ∃ t, m.transfers = [t] ∧ m.value = t.value

variable {m : Metadata} {args : List String}

theorem isShaped_plain (sender receiver : String) (value : Nat) :
    (plain sender receiver value).IsShaped where
  functionArgs_iff := Iff.rfl
  isRun_args := nofun
  token_isShaped := nofun
  value_eq := nofun

theorem IsShaped.withCall (h : m.IsShaped) (name : String)
    (hex : ∀ arg ∈ args, Hex.isText arg = true) : (m.withCall name args).IsShaped where
  functionArgs_iff := Iff.rfl
  isRun_args := by
    rintro _ ⟨⟩ arg harg
    exact (Hex.isText_iff arg).1 (hex arg harg)
  token_isShaped := h.token_isShaped
  value_eq := h.value_eq

theorem IsShaped.withTransfers {transfers : List TokenTransfer} (h : m.IsShaped)
    (tokens : ∀ t ∈ transfers, t.token.IsShaped)
    (value : m.value = 0 ∨ ∃ t, transfers = [t] ∧ m.value = t.value) :
    { m with transfers := transfers }.IsShaped where
  functionArgs_iff := h.functionArgs_iff
  isRun_args := h.isRun_args
  token_isShaped := tokens
  value_eq := fun _ => value

end Metadata

namespace Transaction

open Results

variable {format : Address.Format} {tx : Transaction} {m moved : Metadata} {args : List String}

/-! ### The transaction itself -/

theorem isShaped_of_describeOuter (h : (describeOuter tx).result = .ok m) : m.IsShaped := by
  obtain ⟨value, rfl | ⟨_, name, args, -, -, hex, rfl⟩⟩ := describeOuter_eq_ok h
  · exact Metadata.isShaped_plain tx.sender tx.receiver value
  · exact (Metadata.isShaped_plain tx.sender tx.receiver value).withCall name hex

theorem sender_of_describeOuter (h : (describeOuter tx).result = .ok m) :
    m.sender = tx.sender := by
  obtain ⟨value, rfl | ⟨_, _, _, -, -, -, rfl⟩⟩ := describeOuter_eq_ok h
  · rfl
  · rfl

/-! ### Transfers -/

/-- The call that follows a transfer changes nothing but the call. -/
theorem withInnerCall_eq_ok (h : withInnerCall m args = .ok moved) :
    moved = m ∨ ∃ name rest, (∀ arg ∈ rest, arg ∈ args) ∧ moved = m.withCall name rest := by
  cases args with
  | nil =>
    cases h
    exact Or.inl rfl
  | cons function rest =>
    obtain ⟨name, -, h⟩ := bind_eq_ok_iff.1 h
    cases h
    exact Or.inr ⟨name, rest, fun _ => List.mem_cons_of_mem function, rfl⟩

/-- What a transfer is described as: the tokens and the call that follows them. -/
theorem isShaped_of_withInnerCall {sender receiver : String} {value : Nat}
    {transfers : List TokenTransfer}
    (h : withInnerCall (.plain sender receiver value) args = .ok moved)
    (hex : ∀ arg ∈ args, Hex.isText arg = true) (tokens : ∀ t ∈ transfers, t.token.IsShaped)
    (amount : value = 0 ∨ ∃ t, transfers = [t] ∧ value = t.value) :
    { moved with transfers := transfers }.IsShaped ∧ moved.sender = sender ∧
      moved.receiver = receiver := by
  have plain := Metadata.isShaped_plain sender receiver value
  obtain rfl | ⟨name, rest, sub, rfl⟩ := withInnerCall_eq_ok h
  · exact ⟨plain.withTransfers tokens amount, rfl, rfl⟩
  · have call := plain.withCall name fun arg harg => hex arg (sub arg harg)
    exact ⟨call.withTransfers tokens amount, rfl, rfl⟩

theorem exists_of_hexAddress {arg text : String} (h : hexAddress format arg = .ok text) :
    ∃ bs : List UInt8, bs.length = format.size ∧ format.encode bs = .ok text := by
  obtain ⟨bs, -, hbs⟩ := bind_eq_ok_iff.1 (mapError_eq_ok_iff.1 h)
  exact ⟨bs, ((format.encode_eq_ok_iff bs).1 ⟨text, hbs⟩).1, hbs⟩

theorem isShaped_of_groupTransfer {group : String × String × String} {t : TokenTransfer}
    (h : groupTransfer group = .ok t) (hex : Hex.isText group.2.1 = true) :
    t.token.IsShaped := by
  obtain ⟨token, nonce, amount⟩ := group
  obtain ⟨name, -, h⟩ := bind_eq_ok_iff.1 h
  obtain ⟨value, -, h⟩ := bind_eq_ok_iff.1 h
  cases hnonce : Hexadecimal.nonce? nonce with
  | none =>
    rw [hnonce] at h
    cases h
    exact Token.isShaped_fungible name
  | some n =>
    rw [hnonce] at h
    cases h
    exact Token.isShaped_nonFungible name hex

theorem isShaped_of_fungibleTransfer (h : fungibleTransfer m args = .ok moved)
    (hex : ∀ arg ∈ args, Hex.isText arg = true) :
    moved.IsShaped ∧ moved.sender = m.sender ∧ moved.receiver = m.receiver := by
  unfold fungibleTransfer at h
  split at h
  · next token amount rest =>
    obtain ⟨name, -, h⟩ := bind_eq_ok_iff.1 h
    obtain ⟨value, -, h⟩ := bind_eq_ok_iff.1 h
    obtain ⟨inner, hinner, h⟩ := bind_eq_ok_iff.1 h
    cases h
    have single : ∀ t ∈ [(⟨value, .fungible name⟩ : TokenTransfer)], t.token.IsShaped :=
      List.forall_mem_singleton.2 (Token.isShaped_fungible name)
    exact isShaped_of_withInnerCall hinner (fun arg harg => hex arg (by simp [harg])) single
      (Or.inr ⟨_, rfl, rfl⟩)
  · cases h

theorem isShaped_of_nonFungibleTransfer (h : nonFungibleTransfer format m args = .ok moved)
    (hex : ∀ arg ∈ args, Hex.isText arg = true) :
    moved.IsShaped ∧ moved.sender = m.sender ∧
      ∃ bs : List UInt8, bs.length = format.size ∧ format.encode bs = .ok moved.receiver := by
  unfold nonFungibleTransfer at h
  split at h
  · next collection nonce amount receiver rest =>
    obtain ⟨-, -, h⟩ := bind_eq_ok_iff.1 h
    obtain ⟨name, -, h⟩ := bind_eq_ok_iff.1 h
    obtain ⟨value, -, h⟩ := bind_eq_ok_iff.1 h
    obtain ⟨address, haddress, h⟩ := bind_eq_ok_iff.1 h
    obtain ⟨inner, hinner, h⟩ := bind_eq_ok_iff.1 h
    cases h
    have single : ∀ t ∈ [(⟨value, .nonFungible name nonce⟩ : TokenTransfer)], t.token.IsShaped :=
      List.forall_mem_singleton.2 (Token.isShaped_nonFungible name (hex nonce (by simp)))
    obtain ⟨shaped, sender, receiver⟩ := isShaped_of_withInnerCall hinner
      (fun arg harg => hex arg (by simp [harg])) single (Or.inr ⟨_, rfl, rfl⟩)
    exact ⟨shaped, sender, receiver ▸ exists_of_hexAddress haddress⟩
  · cases h

theorem isShaped_of_multipleTransfer (h : multipleTransfer format m args = .ok moved)
    (hex : ∀ arg ∈ args, Hex.isText arg = true) :
    moved.IsShaped ∧ moved.sender = m.sender ∧
      ∃ bs : List UInt8, bs.length = format.size ∧ format.encode bs = .ok moved.receiver := by
  unfold multipleTransfer at h
  split at h
  · next receiver number first rest =>
    obtain ⟨-, -, h⟩ := bind_eq_ok_iff.1 h
    obtain ⟨address, haddress, h⟩ := bind_eq_ok_iff.1 h
    split at h
    · next count _ =>
      dsimp only at h
      split_ifs at h
      · obtain ⟨_, few, -⟩ := bind_eq_ok_iff.1 h
        cases few
      obtain ⟨transfers, htransfers, h⟩ := bind_eq_ok_iff.1 h
      obtain ⟨inner, hinner, h⟩ := bind_eq_ok_iff.1 h
      cases h
      have own : ∀ arg ∈ first :: rest, Hex.isText arg = true := by
        intro arg harg
        exact hex arg (List.mem_cons_of_mem receiver (List.mem_cons_of_mem number harg))
      have tokens : ∀ t ∈ transfers, t.token.IsShaped := by
        refine forall_of_mapM_eq_ok (Q := fun t => t.token.IsShaped) htransfers ?_
        intro group hgroup t ht
        have nonce := (mem_of_mem_triples hgroup).2.1
        exact isShaped_of_groupTransfer ht (own _ (List.mem_of_mem_take nonce))
      obtain ⟨shaped, sender, receiver⟩ := isShaped_of_withInnerCall hinner
        (fun arg harg => own arg (List.mem_of_mem_drop harg)) tokens (Or.inl rfl)
      exact ⟨shaped, sender, receiver ▸ exists_of_hexAddress haddress⟩
    · cases h
  · cases h

/-- A transfer is shaped, and only one that is called on the sender has another receiver. -/
theorem isShaped_of_transfer {kind : TransferKind} (h : transfer format m args kind = .ok moved)
    (arguments : transferArguments? kind m = some args)
    (hex : ∀ arg ∈ args, Hex.isText arg = true) :
    moved.IsShaped ∧ moved.sender = m.sender ∧ (moved.receiver ≠ m.receiver →
      m.sender = m.receiver ∧
        ∃ bs : List UInt8, bs.length = format.size ∧ format.encode bs = .ok moved.receiver) := by
  obtain ⟨-, allowed⟩ := transferArguments?_eq_some_iff.1 arguments
  cases kind with
  | fungible =>
    obtain ⟨shaped, sender, receiver⟩ := isShaped_of_fungibleTransfer h hex
    exact ⟨shaped, sender, fun other => absurd receiver other⟩
  | nonFungible =>
    obtain ⟨shaped, sender, address⟩ := isShaped_of_nonFungibleTransfer h hex
    exact ⟨shaped, sender, fun _ => ⟨allowed.resolve_left (by decide), address⟩⟩
  | multiple =>
    obtain ⟨shaped, sender, address⟩ := isShaped_of_multipleTransfer h hex
    exact ⟨shaped, sender, fun _ => ⟨allowed.resolve_left (by decide), address⟩⟩

/-! ### All transactions -/

/-- A description is made of the innermost transaction, by itself or as a transfer. -/
theorem describeWith_eq_ok {max : Nat} (h : (describeWith format max tx).result = .ok moved) :
    ∃ n inner m, n ≤ max ∧ Nested format n tx inner ∧ IsBare format inner ∧
      (describeOuter inner).result = .ok m ∧ (moved = m ∨ ∃ kind args,
        transferArguments? kind m = some args ∧ transfer format m args kind = .ok moved) := by
  obtain ⟨n, inner, nested, bare, -⟩ := exists_nested format tx
  have enough : n ≤ max := by
    by_contra hlt
    rw [result_describeWith_of_lt nested (by omega)] at h
    cases h
  rw [result_describeWith_of_le nested bare enough] at h
  obtain ⟨m, hm, h⟩ := bind_eq_ok_iff.1 h
  obtain ⟨m', houter, hm⟩ := bind_eq_ok_iff.1 hm
  obtain ⟨-, -, hm⟩ := bind_eq_ok_iff.1 hm
  cases hm
  refine ⟨n, inner, m, enough, nested, bare, houter, ?_⟩
  obtain ⟨found, hfound, h⟩ := map_eq_ok_iff.1 h
  cases found with
  | none => exact Or.inl h.symm
  | some result =>
    obtain ⟨kind, result⟩ := result
    cases h
    exact Or.inr ⟨kind, findTransfer_eq_some hfound⟩

theorem isShaped_of_describeWith {max : Nat} (h : (describeWith format max tx).result = .ok moved) :
    moved.IsShaped := by
  obtain ⟨-, inner, own, -, -, -, houter, origin⟩ := describeWith_eq_ok h
  obtain rfl | ⟨kind, args, arguments, transferred⟩ := origin
  · exact isShaped_of_describeOuter houter
  · obtain ⟨call, -⟩ := transferArguments?_eq_some_iff.1 arguments
    exact (isShaped_of_transfer transferred arguments (isText_of_call? houter _ _ call)).1

/-- Every description has the shape of one: name and arguments of a call come together, and the
arguments are even numbers of hexadecimal digits; a token has no collection and no identifier, or
it has no name and its identifier is its collection and a hexadecimal nonce; and with tokens the
amount is nothing, or there is one transfer and the amount is its.  The sender is the innermost
sender.  If the receiver is not the innermost receiver, then it is the text of an address, and the
innermost transaction was sent to its sender. -/
theorem describe_isShaped (settings : Settings) (tx : Transaction) (m : Metadata)
    (h : (describe settings tx).result = .ok m) :
    m.IsShaped ∧ ∃ n inner, n ≤ settings.maxRelayDepth ∧ Nested settings.format n tx inner ∧
      IsBare settings.format inner ∧ m.sender = inner.sender ∧
      (m.receiver ≠ inner.receiver → inner.sender = inner.receiver ∧ ∃ bs : List UInt8,
        bs.length = settings.addressSize ∧ settings.format.encode bs = .ok m.receiver) := by
  obtain ⟨n, inner, own, hle, nested, bare, houter, origin⟩ := describeWith_eq_ok h
  have sender := sender_of_describeOuter houter
  have receiver := receiver_of_describeOuter houter
  obtain rfl | ⟨kind, args, arguments, moved⟩ := origin
  · exact ⟨isShaped_of_describeOuter houter, n, inner, hle, nested, bare, sender,
      fun other => absurd receiver other⟩
  · obtain ⟨call, -⟩ := transferArguments?_eq_some_iff.1 arguments
    obtain ⟨shaped, sender', other⟩ :=
      isShaped_of_transfer moved arguments (isText_of_call? houter _ _ call)
    rw [sender, receiver] at other
    exact ⟨shaped, n, inner, hle, nested, bare, sender'.trans sender, other⟩

/-- A token that an account moves to another one, in an envelope. -/
def sampleRelayed : Transaction where
  sender := ""
  receiver := "erd1qy3lgpud"
  data := Base64.toText (callBytes "relayedTxV2"
    ["01", "", Hex.toText (callBytes "ESDTNFTTransfer" ["54", "0a", "05", "02"]), ""])
  value := "1"

theorem describe_isShaped_sampleRelayed :
    ∃ m, (describe ⟨"erd", 1, 1⟩ sampleRelayed).result = .ok m ∧
      m.IsShaped ∧ ∃ n inner, n ≤ 1 ∧ Nested (.ofPrefix "erd" 1) n sampleRelayed inner ∧
        IsBare (.ofPrefix "erd" 1) inner ∧ m.sender = inner.sender ∧
        (m.receiver ≠ inner.receiver → inner.sender = inner.receiver ∧ ∃ bs : List UInt8,
          bs.length = 1 ∧ (Address.Format.ofPrefix "erd" 1).encode bs = .ok m.receiver) := by
  have described : (describe ⟨"erd", 1, 1⟩ sampleRelayed).result =
      .ok ⟨"erd1qy3lgpud", "erd1qgqpwtd2", 5, none, none, [⟨5, ⟨"", "T", "T-0a"⟩⟩]⟩ := by
    decide +kernel
  exact ⟨_, described, describe_isShaped ⟨"erd", 1, 1⟩ sampleRelayed _ described⟩

end Transaction

end TxInspect
