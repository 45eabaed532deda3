import Mathlib.Tactic.Common
import TxInspect.Proofs.Codec.Base64
import TxInspect.Proofs.Transaction.Calls
import TxInspect.Proofs.Transaction.Layers
import TxInspect.Proofs.Transaction.Transfers

/-!
# The bytes of a data field

A data field is described by its bytes alone, cut at every `@` (`splitCall_decodeLossy`): the first
piece is the name of the call, read with faults, and the other pieces are its arguments as they
stand, provided that each of them is an even number of hexadecimal digits.  Unless the call is an
envelope or a transfer, this is the whole description (`describe_pieces`).
-/

namespace TxInspect.Transaction

open Results

/-! ### Calls that mean more -/

/-- The call opens an envelope. -/
def IsEnvelope (name : String) (args : List String) : Prop :=
  name = "relayedTx" ∧ args.length = 1 ∨ name = "relayedTxV2" ∧ args.length = 4

/-- The call moves tokens.  Two of the functions do so only if they are called on the sender. -/
def IsTransfer (sender receiver name : String) : Prop :=
  name = "ESDTTransfer" ∨
    sender = receiver ∧ (name = "ESDTNFTTransfer" ∨ name = "MultiESDTNFTTransfer")

instance (name : String) (args : List String) : Decidable (IsEnvelope name args) :=
  inferInstanceAs (Decidable (_ ∨ _))

instance (sender receiver name : String) : Decidable (IsTransfer sender receiver name) :=
  inferInstanceAs (Decidable (_ ∨ _))

variable {format : Address.Format} {tx : Transaction} {m : Metadata} {name : String}
  {args : List String}

theorem unwrap?_of_call?_none (format : Address.Format) (h : m.call? = none) :
    unwrap? format m = .ok none := by
  rw [unwrap?, h]

theorem unwrap?_of_not_isEnvelope (format : Address.Format) (call : m.call? = some (name, args))
    (h : ¬ IsEnvelope name args) : unwrap? format m = .ok none := by
  unfold unwrap?
  split
  · next payload heq =>
    rw [call, Option.some.injEq, Prod.mk.injEq] at heq
    exact absurd (Or.inl ⟨heq.1, by rw [heq.2]; rfl⟩) h
  · next receiver nonce data signature heq =>
    rw [call, Option.some.injEq, Prod.mk.injEq] at heq
    exact absurd (Or.inr ⟨heq.1, by rw [heq.2]; rfl⟩) h
  · rfl

theorem transferArguments?_eq_none (kind : TransferKind)
    (h : ∀ name args, m.call? = some (name, args) → ¬ IsTransfer m.sender m.receiver name) :
    transferArguments? kind m = none := by
  by_contra some
  obtain ⟨args, hargs⟩ := Option.ne_none_iff_exists'.1 some
  obtain ⟨call, allowed⟩ := transferArguments?_eq_some_iff.1 hargs
  apply h _ args call
  cases kind with
  | fungible => exact Or.inl rfl
  | nonFungible => exact Or.inr ⟨allowed.resolve_left (by decide), Or.inl rfl⟩
  | multiple => exact Or.inr ⟨allowed.resolve_left (by decide), Or.inr rfl⟩

theorem withTransfer_of_not_isTransfer (format : Address.Format)
    (h : ∀ name args, m.call? = some (name, args) → ¬ IsTransfer m.sender m.receiver name) :
    withTransfer format m = .ok m := by
  rw [withTransfer, findTransfer_eq_none format fun kind _ => transferArguments?_eq_none kind h]
  rfl

/-- A transaction that is no envelope is described by its own call. -/
theorem result_describeWith_of_unwrap?_none (outer : (describeOuter tx).result = .ok m)
    (closed : unwrap? format m = .ok none) (max : Nat) :
    (describeWith format max tx).result = withTransfer format m := by
  have inner : (describeInner format 0 max tx).result = .ok m := by
    rw [result_describeInner, outer]
    simp [bind, Except.bind, closed]
  rw [result_describeWith, inner]
  rfl

/-! ### Pieces of bytes -/

/-- The sign between a function name and the arguments, as a byte. -/
def separatorByte : UInt8 := 0x40

variable {bs first : List UInt8} {rest : List (List UInt8)}

/-- The name and the arguments of a call are the texts of the pieces of its bytes. -/
theorem splitCall_decodeLossy (h : Text.pieces separatorByte bs = first :: rest) :
    splitCall (Utf8.decodeLossy bs) = (Utf8.lossy first, rest.map Utf8.lossy) := by
  have cut : Text.pieces separator (Utf8.decodeLossy bs) =
      (first :: rest).map Utf8.decodeLossy := by
    rw [← h]
    exact Utf8.pieces_decodeLossy separatorByte (by decide) bs
  rw [splitCall, cut, List.map_map, List.map_cons]
  rfl

theorem toText_ne_empty (h : bs ≠ []) : Base64.toText bs ≠ "" := by
  intro empty
  have chars := congrArg String.toList empty
  rw [Base64.toText, String.toList_ofList] at chars
  exact Base64.encode_ne_nil h (List.map_eq_nil_iff.1 chars)

/-- The data field of some bytes is described as the call that their pieces make, if it is one. -/
theorem result_describeOuter_of_pieces {amount : String} {value : Nat}
    (hvalue : readValue amount = .ok value) (nonempty : bs ≠ [])
    (h : Text.pieces separatorByte bs = first :: rest) (sender receiver : String) :
    (describeOuter ⟨sender, receiver, Base64.toText bs, amount⟩).result =
      .ok (withCallIfHex (.plain sender receiver value)
        (Utf8.lossy first, rest.map Utf8.lossy)) := by
  have data := Base64.ofText_toText bs
  rw [result_describeOuter, hvalue]
  simp only [bind, Except.bind, if_neg (toText_ne_empty nonempty), data, Except.mapError,
    splitCall_decodeLossy h]

theorem all_isText_map_lossy_iff (rest : List (List UInt8)) :
    (rest.map Utf8.lossy).all Hex.isText = true ↔
      ∀ p ∈ rest, Hex.IsRun (p.map Digit.ofByte) := by
  rw [List.all_map, List.all_eq_true]
  exact forall₂_congr fun p _ => Hex.isText_lossy_iff p

theorem map_lossy_of_isRun (h : ∀ p ∈ rest, Hex.IsRun (p.map Digit.ofByte)) :
    rest.map Utf8.lossy = rest.map fun p => String.ofList (p.map Digit.ofByte) :=
  List.map_congr_left fun p hp => Hex.lossy_of_isRun (h p hp)

/-- A data field of at least one byte by its bytes.  They are cut at every `@`, and nothing is lost.
If a piece after the first is no even number of hexadecimal digits, the transaction only moves its
amount.  Otherwise the first piece is the name of a call, read with faults, and the other pieces are
its arguments, character by character.  This is the call of the transaction itself, and unless it is
an envelope or a transfer, it is the whole description. -/
theorem describe_pieces (settings : Settings) (sender receiver : String) {amount : String}
    {value : Nat} (hvalue : readValue amount = .ok value) {bs : List UInt8} (nonempty : bs ≠ []) :
    ∃ first rest name args, Text.pieces 0x40 bs = first :: rest ∧
      Text.joined 0x40 (first :: rest) = bs ∧ (∀ p ∈ first :: rest, 0x40 ∉ p) ∧
      name = Utf8.lossy first ∧ args = rest.map (fun p => String.ofList (p.map Digit.ofByte)) ∧
      ((¬ ∀ p ∈ rest, Hex.IsRun (p.map Digit.ofByte)) →
        (describe settings ⟨sender, receiver, Base64.toText bs, amount⟩).result =
          .ok (.plain sender receiver value)) ∧
      ((∀ p ∈ rest, Hex.IsRun (p.map Digit.ofByte)) →
        (describeOuter ⟨sender, receiver, Base64.toText bs, amount⟩).result =
            .ok ((Metadata.plain sender receiver value).withCall name args) ∧
          (¬ IsEnvelope name args → ¬ IsTransfer sender receiver name →
            (describe settings ⟨sender, receiver, Base64.toText bs, amount⟩).result =
              .ok ((Metadata.plain sender receiver value).withCall name args))) := by
  have whole := Text.joined_pieces separatorByte bs
  have free : ∀ p ∈ Text.pieces separatorByte bs, separatorByte ∉ p :=
    fun p hp => Text.notMem_of_mem_pieces hp
  cases hpieces : Text.pieces separatorByte bs with
  | nil => exact absurd hpieces (Text.pieces_ne_nil separatorByte bs)
  | cons first rest =>
    rw [hpieces] at whole free
    have outer := result_describeOuter_of_pieces hvalue nonempty hpieces sender receiver
    have hex := all_isText_map_lossy_iff rest
    refine ⟨first, rest, _, _, hpieces, whole, free, rfl, rfl, ?_, ?_⟩
    · intro noCall
      rw [withCallIfHex, if_neg (hex.not.2 noCall)] at outer
      have none : ∀ name args, (Metadata.plain sender receiver value).call? = some (name, args) →
          ¬ IsTransfer sender receiver name := fun _ _ call => by cases call
      have closed := unwrap?_of_call?_none settings.format (call?_plain sender receiver value)
      exact (result_describeWith_of_unwrap?_none outer closed _).trans
        (withTransfer_of_not_isTransfer settings.format none)
    · intro call
      rw [withCallIfHex, if_pos (hex.2 call), map_lossy_of_isRun call] at outer
      refine ⟨outer, fun noEnvelope noTransfer => ?_⟩
      have described := call?_withCall (.plain sender receiver value) (Utf8.lossy first)
        (rest.map fun p => String.ofList (p.map Digit.ofByte))
      have closed := unwrap?_of_not_isEnvelope settings.format described noEnvelope
      refine (result_describeWith_of_unwrap?_none outer closed _).trans
        (withTransfer_of_not_isTransfer settings.format ?_)
      rintro name args call
      rw [described, Option.some.injEq, Prod.mk.injEq] at call
      exact call.1 ▸ noTransfer

/-- A name that is no UTF-8, an argument of two digits and one of none. -/
theorem describe_pieces_sample :
    (describe {} ⟨"a", "b", Base64.toText [0xE2, 0x82, 0x40, 0x30, 0x61, 0x40], "+5"⟩).result =
      .ok ⟨"a", "b", 5, some "\uFFFD", some ["0a", ""], []⟩ := by
  have amount : readValue "+5" = .ok 5 := by decide
  have nonempty : ([0xE2, 0x82, 0x40, 0x30, 0x61, 0x40] : List UInt8) ≠ [] := by decide
  obtain ⟨first, rest, name, args, hpieces, -, -, rfl, rfl, -, h⟩ :=
    describe_pieces {} "a" "b" amount nonempty
  have cut : Text.pieces 0x40 ([0xE2, 0x82, 0x40, 0x30, 0x61, 0x40] : List UInt8) =
      [[0xE2, 0x82], [0x30, 0x61], []] := by decide
  cases hpieces.symm.trans cut
  exact (h (by decide)).2 (by decide) (by decide)

end TxInspect.Transaction
