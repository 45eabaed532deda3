import Mathlib.Tactic.Common
import TxInspect.Proofs.Number.Hexadecimal
import TxInspect.Proofs.Results
import TxInspect.Proofs.Transaction.Calls
import TxInspect.Proofs.Transaction.Transfers
import TxInspect.Transaction.Decoder

/-!
# Faults of the parts

What can go wrong while a transaction is described: in the transaction itself
(`failsOnly_describeOuter`), in its envelope (`failsOnly_unwrap?`) and in a transfer
(`failsOnly_findTransfer`).  The arguments of a call are hexadecimal, so none of the parts that read
them as such fails.  No part makes a fault of depth: this is left to the limit on envelopes.
-/

namespace TxInspect.Transaction

open Results

/-- The fault is not one of depth. -/
def Fault.NotTooDeep (e : Fault) : Prop :=
  ∀ d, e ≠ .tooDeep d

variable {format : Address.Format} {tx : Transaction} {m : Metadata} {arg : String}
  {args : List String} {kind : TransferKind}

/-! ### The transaction itself -/

/-- A fault of the transaction itself: in its amount or in its data field. -/
def Fault.OfOuter (tx : Transaction) : Fault → Prop
  | .badValue => readValue tx.value = .error .badValue
  | .badData _ => True
  | _ => False

theorem failsOnly_readValue (tx : Transaction) :
    FailsOnly (Fault.OfOuter tx) (readValue tx.value) := by
  intro e h
  have same := h
  unfold readValue at same
  split_ifs at same
  split at same
  · cases same
  · cases same
    exact h

theorem failsOnly_describeOuter (tx : Transaction) :
    FailsOnly (Fault.OfOuter tx) (describeOuter tx).result := by
  rw [result_describeOuter]
  refine FailsOnly.bind (failsOnly_readValue tx) fun value _ => ?_
  split_ifs
  · exact failsOnly_ok _
  · exact FailsOnly.bind (failsOnly_mapError fun _ _ => trivial) fun bs _ => failsOnly_ok _

/-! ### Envelopes -/

/-- The bytes are those of an address in the envelope that the call is. -/
inductive HoldsAddress (m : Metadata) (bs : List UInt8) : Prop where
  | argument {receiver nonce data signature : String}
    (call : m.call? = some ("relayedTxV2", [receiver, nonce, data, signature]))
    (ofText_receiver : Hex.ofText receiver = .ok bs)
  | field {payload : String} {json : List UInt8} {fields : Inner}
    (call : m.call? = some ("relayedTx", [payload]))
    (ofText_payload : Hex.ofText payload = .ok json)
    (ofText_json : Inner.ofText json = .ok fields)
    (ofText_field : Base64.ofText fields.sender = .ok bs ∨ Base64.ofText fields.receiver = .ok bs)

/-- A fault of an envelope: in its JSON, in base64 text of this JSON, or in an address. -/
def Fault.OfEnvelope (format : Address.Format) (m : Metadata) : Fault → Prop
  | .badData _ => True
  | .badPayload _ => True
  | .address cause => ∃ bs, HoldsAddress m bs ∧ format.encode bs = .error cause
  | _ => False

theorem exists_hexBytes (hex : Hex.isText arg = true) (argument : Argument) :
    ∃ bs, hexBytes argument arg = .ok bs := by
  obtain ⟨bs, hbs⟩ := isOk_iff.1 hex
  exact ⟨bs, mapError_eq_ok_iff.2 hbs⟩

theorem failsOnly_base64Address {text : String}
    (h : ∀ bs, Base64.ofText text = .ok bs → HoldsAddress m bs) :
    FailsOnly (Fault.OfEnvelope format m) (base64Address format text) := by
  refine FailsOnly.bind (failsOnly_mapError fun _ _ => trivial) fun bs hbs => ?_
  apply failsOnly_mapError
  intro cause hcause
  exact ⟨bs, h bs (mapError_eq_ok_iff.1 hbs), hcause⟩

theorem failsOnly_unwrapPayload {payload : String} (call : m.call? = some ("relayedTx", [payload]))
    (hex : Hex.isText payload = true) :
    FailsOnly (Fault.OfEnvelope format m) (unwrapPayload format payload) := by
  refine FailsOnly.bind (failsOnly_of_exists (exists_hexBytes hex _)) fun json hjson => ?_
  refine FailsOnly.bind (failsOnly_mapError fun _ _ => trivial) fun fields hfields => ?_
  have holds : ∀ bs, Base64.ofText fields.sender = .ok bs ∨ Base64.ofText fields.receiver = .ok bs →
      HoldsAddress m bs :=
    fun bs => .field call (mapError_eq_ok_iff.1 hjson) (mapError_eq_ok_iff.1 hfields)
  refine FailsOnly.bind (failsOnly_base64Address fun bs hbs => holds bs (Or.inl hbs)) ?_
  intro sender _
  refine FailsOnly.bind (failsOnly_base64Address fun bs hbs => holds bs (Or.inr hbs)) ?_
  exact fun receiver _ => failsOnly_ok _

theorem failsOnly_unwrapArguments {receiver nonce data signature : String}
    (call : m.call? = some ("relayedTxV2", [receiver, nonce, data, signature]))
    (hex : ∀ arg ∈ [receiver, nonce, data, signature], Hex.isText arg = true)
    (outerReceiver : String) :
    FailsOnly (Fault.OfEnvelope format m) (unwrapArguments format outerReceiver receiver data) := by
  obtain ⟨bs, hbs⟩ := isOk_iff.1 (hex receiver (by simp))
  refine FailsOnly.bind (failsOnly_of_exists (exists_hexBytes (hex data (by simp)) _)) ?_
  intro data _
  refine FailsOnly.bind (failsOnly_mapError fun cause hcause => ?_) fun _ _ => failsOnly_ok _
  rw [Address.Format.encodeHex, Address.Format.hexBytes, hbs] at hcause
  exact ⟨bs, .argument call hbs, hcause⟩

theorem failsOnly_unwrap? (format : Address.Format)
    (hex : ∀ name args, m.call? = some (name, args) → ∀ arg ∈ args, Hex.isText arg = true) :
    FailsOnly (Fault.OfEnvelope format m) (unwrap? format m) := by
  unfold unwrap?
  split
  · next payload call =>
    exact (failsOnly_unwrapPayload call (hex _ _ call payload (by simp))).map some
  · next receiver nonce data signature call =>
    exact (failsOnly_unwrapArguments call (hex _ _ call) m.receiver).map some
  · exact failsOnly_ok none

/-! ### Transfers -/

/-- A fault of a transfer with the given arguments: in a number, in the number of arguments, or in
the address of the receiver. -/
def Fault.OfTransfer (format : Address.Format) (kind : TransferKind) (args : List String) :
    Fault → Prop
  | .badNumber argument text => text = "" ∨
      argument = .transferCount ∧ Hex.IsRun text.toList ∧ 2 ^ 64 ≤ Hexadecimal.number text.toList
  | .fewArguments short required found =>
    short = kind ∧ found < required ∧ found = args.length
  | .badAddress => True
  | .address cause => ∃ bs : List UInt8, bs.length = format.size ∧ format.encode bs = .error cause
  | _ => False

theorem exists_hexText (hex : Hex.isText arg = true) (argument : Argument) :
    ∃ text, hexText argument arg = .ok text := by
  obtain ⟨bs, hbs⟩ := isOk_iff.1 hex
  exact ⟨Utf8.lossy bs, by rw [hexText, hbs]⟩

theorem failsOnly_withInnerCall {P : Fault → Prop} (hex : ∀ arg ∈ args, Hex.isText arg = true)
    (m : Metadata) : FailsOnly P (withInnerCall m args) := by
  cases args with
  | nil => exact failsOnly_ok m
  | cons function args =>
    have name := exists_hexText (hex function List.mem_cons_self) .functionName
    exact FailsOnly.bind (failsOnly_of_exists name) fun _ _ => failsOnly_ok _

theorem failsOnly_hexAmount (hex : Hex.isText arg = true) (argument : Argument) :
    FailsOnly (Fault.OfTransfer format kind args) (hexAmount argument arg) := by
  unfold hexAmount
  split
  · exact failsOnly_ok _
  · next h =>
    apply failsOnly_error
    exact Or.inl (Hexadecimal.amount?_eq_none h ((Hex.isText_iff arg).1 hex).2)

theorem failsOnly_checkAddress (arg : String) :
    FailsOnly (Fault.OfTransfer format kind args) (checkAddress format arg) := by
  unfold checkAddress
  split
  · split_ifs
    · exact failsOnly_ok _
    · exact failsOnly_error trivial
  · exact failsOnly_error trivial

theorem failsOnly_hexAddress (checked : checkAddress format arg = .ok ()) :
    FailsOnly (Fault.OfTransfer format kind args) (hexAddress format arg) := by
  unfold checkAddress at checked
  split at checked
  · next bs hbs =>
    split_ifs at checked with length
    apply failsOnly_mapError
    intro cause hcause
    rw [Address.Format.encodeHex, Address.Format.hexBytes, hbs] at hcause
    exact ⟨bs, length, hcause⟩
  · cases checked

theorem failsOnly_groupTransfer {group : String × String × String}
    (token : Hex.isText group.1 = true) (amount : Hex.isText group.2.2 = true) :
    FailsOnly (Fault.OfTransfer format kind args) (groupTransfer group) := by
  refine FailsOnly.bind (failsOnly_of_exists (exists_hexText token _)) fun name _ => ?_
  refine FailsOnly.bind (failsOnly_hexAmount amount _) fun value _ => ?_
  cases Hexadecimal.nonce? group.2.1 with
  | none => exact failsOnly_ok _
  | some _ => exact failsOnly_ok _

theorem failsOnly_fungibleTransfer (hex : ∀ arg ∈ args, Hex.isText arg = true) (m : Metadata) :
    FailsOnly (Fault.OfTransfer format .fungible args) (fungibleTransfer m args) := by
  match args with
  | token :: amount :: rest =>
    rw [fungibleTransfer]
    refine FailsOnly.bind (failsOnly_of_exists (exists_hexText (hex token (by simp)) _)) ?_
    intro name _
    refine FailsOnly.bind (failsOnly_hexAmount (hex amount (by simp)) _) fun value _ => ?_
    refine FailsOnly.bind ?_ fun moved _ => failsOnly_ok _
    exact failsOnly_withInnerCall (fun arg harg => hex arg (by simp [harg])) _
  | [] => exact failsOnly_error ⟨rfl, by simp, rfl⟩
  | [_] => exact failsOnly_error ⟨rfl, by simp, rfl⟩

theorem failsOnly_nonFungibleTransfer (hex : ∀ arg ∈ args, Hex.isText arg = true) (m : Metadata) :
    FailsOnly (Fault.OfTransfer format .nonFungible args) (nonFungibleTransfer format m args) := by
  match args with
  | collection :: nonce :: amount :: receiver :: rest =>
    rw [nonFungibleTransfer]
    refine FailsOnly.bind (failsOnly_checkAddress receiver) fun _ checked => ?_
    refine FailsOnly.bind (failsOnly_of_exists (exists_hexText (hex collection (by simp)) _)) ?_
    intro name _
    refine FailsOnly.bind (failsOnly_hexAmount (hex amount (by simp)) _) fun value _ => ?_
    refine FailsOnly.bind (failsOnly_hexAddress checked) fun address _ => ?_
    refine FailsOnly.bind ?_ fun moved _ => failsOnly_ok _
    exact failsOnly_withInnerCall (fun arg harg => hex arg (by simp [harg])) _
  | [] => exact failsOnly_error ⟨rfl, by simp, rfl⟩
  | [_] => exact failsOnly_error ⟨rfl, by simp, rfl⟩
  | [_, _] => exact failsOnly_error ⟨rfl, by simp, rfl⟩
  | [_, _, _] => exact failsOnly_error ⟨rfl, by simp, rfl⟩

theorem failsOnly_multipleTransfer (hex : ∀ arg ∈ args, Hex.isText arg = true) (m : Metadata) :
    FailsOnly (Fault.OfTransfer format .multiple args) (multipleTransfer format m args) := by
  match args with
  | receiver :: number :: first :: rest =>
    have own : ∀ arg ∈ first :: rest, Hex.isText arg = true := by
      intro arg harg
      exact hex arg (List.mem_cons_of_mem receiver (List.mem_cons_of_mem number harg))
    rw [multipleTransfer]
    refine FailsOnly.bind (failsOnly_checkAddress receiver) fun _ checked => ?_
    refine FailsOnly.bind (failsOnly_hexAddress checked) fun address _ => ?_
    split
    · dsimp only
      split_ifs with few
      -- Receiver and number are arguments too.
      · exact FailsOnly.bind (failsOnly_error ⟨rfl, few, rfl⟩) nofun
      · refine FailsOnly.bind (failsOnly_mapM fun group hgroup => ?_) fun transfers _ => ?_
        · obtain ⟨token, -, amount⟩ := mem_of_mem_triples hgroup
          exact failsOnly_groupTransfer (own _ (List.mem_of_mem_take token))
            (own _ (List.mem_of_mem_take amount))
        · refine FailsOnly.bind ?_ fun moved _ => failsOnly_ok _
          exact failsOnly_withInnerCall (fun arg harg => own arg (List.mem_of_mem_drop harg)) _
    · next noCount =>
      have run := (Hex.isText_iff number).1 (hex number (by simp))
      apply failsOnly_error
      obtain empty | large :=
        Hexadecimal.count?_eq_none (Option.eq_none_iff_forall_ne_some.2 noCount) run.2
      · exact Or.inl empty
      · exact Or.inr ⟨rfl, run, large⟩
  | [] => exact failsOnly_error ⟨rfl, by simp, rfl⟩
  | [_] => exact failsOnly_error ⟨rfl, by simp, rfl⟩
  | [_, _] => exact failsOnly_error ⟨rfl, by simp, rfl⟩

/-- A fault of looking for a transfer is one of a transfer that has been found. -/
theorem failsOnly_findTransfer (format : Address.Format)
    (hex : ∀ name args, m.call? = some (name, args) → ∀ arg ∈ args, Hex.isText arg = true)
    (kinds : List TransferKind) :
    FailsOnly (fun e => ∃ kind args, transferArguments? kind m = some args ∧
      Fault.OfTransfer format kind args e) (findTransfer format m kinds) := by
  induction kinds with
  | nil => exact failsOnly_ok none
  | cons kind kinds ih =>
    refine FailsOnly.bind ?_ fun found _ => ?_
    · unfold recognized?
      split
      · exact failsOnly_ok none
      · next args arguments =>
        obtain ⟨call, -⟩ := transferArguments?_eq_some_iff.1 arguments
        have own := hex _ _ call
        refine FailsOnly.map (FailsOnly.mono (P := Fault.OfTransfer format kind args) ?_ ?_) some
        · cases kind with
          | fungible => exact failsOnly_fungibleTransfer own m
          | nonFungible => exact failsOnly_nonFungibleTransfer own m
          | multiple => exact failsOnly_multipleTransfer own m
        · exact fun e he => ⟨kind, args, arguments, he⟩
    · cases found with
      | none => exact ih
      | some moved => exact failsOnly_ok _

end TxInspect.Transaction
