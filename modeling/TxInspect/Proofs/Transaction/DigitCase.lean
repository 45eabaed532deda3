import Mathlib.Data.List.Forall2
import TxInspect.Proofs.Number.DigitCase
import TxInspect.Proofs.Transaction.Recognizers

/-!
# The case of arguments

Hexadecimal arguments may be written in either case.  What is read from them does not depend on it:
the transaction in an envelope is the same (`unwrap?_congr`), and so are the answers of the
recognizers, but for the case of what they show as it stands (`related_transfer`).  So the
description of a transaction changes in this way alone if letters behind the first `@` of its data
field change their case (`describe_recased`).
-/

namespace TxInspect

/-! ### The same but for case -/

/-- The same transfer but for the case of its identifier. -/
structure TokenTransfer.Recased (t u : TokenTransfer) : Prop where
  value_eq : t.value = u.value
  token_eq : t.token.token = u.token.token
  collection_eq : t.token.collection = u.token.collection
  identifier_eq : t.token.identifier.toLower = u.token.identifier.toLower

/-- The same description but for the case of arguments and identifiers. -/
structure Metadata.Recased (m n : Metadata) : Prop where
  sender_eq : m.sender = n.sender
  receiver_eq : m.receiver = n.receiver
  value_eq : m.value = n.value
  functionName_eq : m.functionName = n.functionName
  functionArgs_eq :
    m.functionArgs.map (List.map String.toLower) = n.functionArgs.map (List.map String.toLower)
  transfers : List.Forall₂ TokenTransfer.Recased m.transfers n.transfers

theorem TokenTransfer.Recased.refl (t : TokenTransfer) : t.Recased t :=
  ⟨rfl, rfl, rfl, rfl⟩

theorem Metadata.Recased.refl (m : Metadata) : m.Recased m where
  sender_eq := rfl
  receiver_eq := rfl
  value_eq := rfl
  functionName_eq := rfl
  functionArgs_eq := rfl
  transfers := List.forall₂_same.2 fun t _ => .refl t

namespace Transaction

open Results

/-- The same fault but for the case of a number that cannot be read. -/
inductive Fault.Recased : Fault → Fault → Prop where
  | same (e : Fault) : Fault.Recased e e
  | badNumber (argument : Argument) {s t : String} (h : s.toLower = t.toLower) :
    Fault.Recased (.badNumber argument s) (.badNumber argument t)

/-- The bytes are the same, or they are the same letter up to `f` in different cases. -/
def IsRecased (b c : UInt8) : Prop :=
  b = c ∨ ∃ i < 6, b.toNat = 'A'.toNat + i ∧ c.toNat = 'a'.toNat + i ∨
    b.toNat = 'a'.toNat + i ∧ c.toNat = 'A'.toNat + i

instance (b c : UInt8) : Decidable (IsRecased b c) :=
  inferInstanceAs (Decidable (_ ∨ _))

/-- The bytes are the same but for the case of letters up to `f` behind the first `@`. -/
def RecasedBehind (bs cs : List UInt8) : Prop :=
  bs = cs ∨ ∃ name rest rest', separatorByte ∉ name ∧ bs = name ++ separatorByte :: rest ∧
    cs = name ++ separatorByte :: rest' ∧ List.Forall₂ IsRecased rest rest'

variable {format : Address.Format} {m n : Metadata} {kind : TransferKind} {name : String}
  {args args' : List String} {s t : String}

/-! ### Arguments -/

theorem hexText_congr (h : Hex.SameBytes s t) (argument : Argument) :
    hexText argument s = hexText argument t := by
  obtain ⟨bs, hs, ht⟩ := h
  rw [hexText, hexText, hs, ht]

theorem hexAmount_congr (h : Hex.SameBytes s t) (argument : Argument) :
    Related Fault.Recased (· = ·) (hexAmount argument s) (hexAmount argument t) := by
  rw [hexAmount, hexAmount, h.amount?_eq]
  cases Hexadecimal.amount? t with
  | some value => exact .ok rfl
  | none => exact .error (.badNumber argument h.toLower_eq)

theorem checkAddress_congr (format : Address.Format) (h : Hex.SameBytes s t) :
    checkAddress format s = checkAddress format t := by
  rw [checkAddress, checkAddress, h.ofText_eq]

theorem hexAddress_congr (format : Address.Format) (h : Hex.SameBytes s t) :
    hexAddress format s = hexAddress format t := by
  rw [hexAddress, hexAddress, Address.Format.encodeHex, Address.Format.encodeHex,
    Address.Format.hexBytes, Address.Format.hexBytes, h.ofText_eq]

theorem map_toLower_congr (h : List.Forall₂ Hex.SameBytes args args') :
    args.map String.toLower = args'.map String.toLower := by
  induction h with
  | nil => rfl
  | cons first _ ih => rw [List.map_cons, List.map_cons, first.toLower_eq, ih]

theorem recased_withCall (h : m.Recased n) (name : String)
    (hargs : List.Forall₂ Hex.SameBytes args args') :
    (m.withCall name args).Recased (n.withCall name args') where
  sender_eq := h.sender_eq
  receiver_eq := h.receiver_eq
  value_eq := h.value_eq
  functionName_eq := rfl
  functionArgs_eq := congrArg some (map_toLower_congr hargs)
  transfers := h.transfers

theorem recased_withTransfers (h : m.Recased n) {ts us : List TokenTransfer}
    (hts : List.Forall₂ TokenTransfer.Recased ts us) :
    { m with transfers := ts }.Recased { n with transfers := us } where
  sender_eq := h.sender_eq
  receiver_eq := h.receiver_eq
  value_eq := h.value_eq
  functionName_eq := h.functionName_eq
  functionArgs_eq := h.functionArgs_eq
  transfers := hts

theorem related_withInnerCall (m : Metadata) (h : List.Forall₂ Hex.SameBytes args args') :
    Related Fault.Recased Metadata.Recased (withInnerCall m args) (withInnerCall m args') := by
  cases h with
  | nil => exact .ok (Metadata.Recased.refl m)
  | cons function rest =>
    refine Related.bind_same .same (hexText_congr function _) fun name => ?_
    exact .ok (recased_withCall (Metadata.Recased.refl m) name rest)

/-! ### Transfers -/

theorem recased_nonFungible (value : Nat) (collection : String) (h : Hex.SameBytes s t) :
    TokenTransfer.Recased ⟨value, .nonFungible collection s⟩
      ⟨value, .nonFungible collection t⟩ where
  value_eq := rfl
  token_eq := rfl
  collection_eq := rfl
  identifier_eq := by
    change (collection ++ "-" ++ s).toLower = (collection ++ "-" ++ t).toLower
    rw [← String.toList_inj, Hex.toList_toLower, Hex.toList_toLower, String.toList_append,
      String.toList_append (s := collection ++ "-"), List.map_append, List.map_append,
      h.map_toLower_eq]

theorem related_fungibleTransfer (sender : m.sender = n.sender) (receiver : m.receiver = n.receiver)
    (h : List.Forall₂ Hex.SameBytes args args') :
    Related Fault.Recased Metadata.Recased (fungibleTransfer m args)
      (fungibleTransfer n args') := by
  obtain _ | ⟨htoken, _ | ⟨hamount, hrest⟩⟩ := h
  · exact .error (.same _)
  · exact .error (.same _)
  refine Related.bind_same .same (hexText_congr htoken _) fun token => ?_
  refine (hexAmount_congr hamount _).bind fun value _ same => ?_
  subst same
  rw [sender, receiver]
  refine (related_withInnerCall _ hrest).bind fun moved moved' hmoved => ?_
  exact .ok (recased_withTransfers hmoved (.cons (.refl _) .nil))

theorem related_nonFungibleTransfer (format : Address.Format) (sender : m.sender = n.sender)
    (h : List.Forall₂ Hex.SameBytes args args') :
    Related Fault.Recased Metadata.Recased (nonFungibleTransfer format m args)
      (nonFungibleTransfer format n args') := by
  obtain _ | ⟨hcollection, _ | ⟨hnonce, _ | ⟨hamount, _ | ⟨hreceiver, hrest⟩⟩⟩⟩ := h
  · exact .error (.same _)
  · exact .error (.same _)
  · exact .error (.same _)
  · exact .error (.same _)
  refine Related.bind_same .same (checkAddress_congr format hreceiver) fun _ => ?_
  refine Related.bind_same .same (hexText_congr hcollection _) fun collection => ?_
  refine (hexAmount_congr hamount _).bind fun value _ same => ?_
  subst same
  refine Related.bind_same .same (hexAddress_congr format hreceiver) fun receiver => ?_
  rw [sender]
  refine (related_withInnerCall _ hrest).bind fun moved moved' hmoved => ?_
  have moves := List.Forall₂.cons (recased_nonFungible value collection hnonce) .nil
  exact .ok (recased_withTransfers hmoved moves)

theorem related_groupTransfer {group group' : String × String × String}
    (h : Hex.SameBytes group.1 group'.1 ∧ Hex.SameBytes group.2.1 group'.2.1 ∧
      Hex.SameBytes group.2.2 group'.2.2) :
    Related Fault.Recased TokenTransfer.Recased (groupTransfer group) (groupTransfer group') := by
  obtain ⟨token, nonce, amount⟩ := group
  obtain ⟨token', nonce', amount'⟩ := group'
  obtain ⟨htoken, hnonce, hamount⟩ := h
  refine Related.bind_same .same (hexText_congr htoken _) fun name => ?_
  refine (hexAmount_congr hamount _).bind fun value _ same => ?_
  subst same
  rw [hnonce.nonce?_eq]
  cases Hexadecimal.nonce? nonce' with
  | some _ => exact .ok (recased_nonFungible value name hnonce)
  | none => exact .ok (.refl ⟨value, .fungible name⟩)

theorem forall₂_triples (h : List.Forall₂ Hex.SameBytes args args') :
    List.Forall₂ (fun g g' : String × String × String => Hex.SameBytes g.1 g'.1 ∧
      Hex.SameBytes g.2.1 g'.2.1 ∧ Hex.SameBytes g.2.2 g'.2.2) (triples args) (triples args') := by
  fun_induction triples args generalizing args' with
  | case1 a b c rest ih =>
    obtain _ | ⟨ha, _ | ⟨hb, _ | ⟨hc, hrest⟩⟩⟩ := h
    exact .cons ⟨ha, hb, hc⟩ (ih hrest)
  | case2 args short =>
    -- Fewer than three on one side are fewer than three on the other.
    obtain _ | ⟨-, _ | ⟨-, _ | ⟨-, -⟩⟩⟩ := h
    · exact .nil
    · exact .nil
    · exact .nil
    · exact (short _ _ _ _ rfl).elim

theorem related_multipleTransfer (format : Address.Format) (sender : m.sender = n.sender)
    (h : List.Forall₂ Hex.SameBytes args args') :
    Related Fault.Recased Metadata.Recased (multipleTransfer format m args)
      (multipleTransfer format n args') := by
  obtain _ | ⟨hreceiver, _ | ⟨hnumber, _ | ⟨hfirst, hrest⟩⟩⟩ := h
  · exact .error (.same _)
  · exact .error (.same _)
  · exact .error (.same _)
  have groups := List.Forall₂.cons hfirst hrest
  refine Related.bind_same .same (checkAddress_congr format hreceiver) fun _ => ?_
  refine Related.bind_same .same (hexAddress_congr format hreceiver) fun receiver => ?_
  rw [hnumber.count?_eq]
  cases Hexadecimal.count? _ with
  | none => exact .error (.badNumber .transferCount hnumber.toLower_eq)
  | some count =>
    dsimp only
    rw [groups.length_eq]
    split_ifs with few
    · exact .error (.same _)
    have moves := Related.mapM (forall₂_triples (List.forall₂_take (requiredArguments count - 2)
      groups)) fun _ _ => related_groupTransfer
    refine moves.bind fun ts us hts => ?_
    rw [sender]
    refine (related_withInnerCall _ (List.forall₂_drop (requiredArguments count - 2) groups)).bind
      fun moved moved' hmoved => ?_
    exact .ok (recased_withTransfers hmoved hts)

/-- A transfer is the same but for case if its arguments are. -/
theorem related_transfer (format : Address.Format) (kind : TransferKind)
    (sender : m.sender = n.sender) (receiver : m.receiver = n.receiver)
    (h : List.Forall₂ Hex.SameBytes args args') :
    Related Fault.Recased Metadata.Recased (transfer format m args kind)
      (transfer format n args' kind) := by
  cases kind with
  | fungible => exact related_fungibleTransfer sender receiver h
  | nonFungible => exact related_nonFungibleTransfer format sender h
  | multiple => exact related_multipleTransfer format sender h

theorem related_withTransfer (format : Address.Format) (m : Metadata) (name : String)
    (h : List.Forall₂ Hex.SameBytes args args') :
    Related Fault.Recased Metadata.Recased (withTransfer format (m.withCall name args))
      (withTransfer format (m.withCall name args')) := by
  by_cases moves : ∃ kind : TransferKind,
      name = kind.function ∧ (kind = .fungible ∨ m.sender = m.receiver)
  · obtain ⟨kind, rfl, allowed⟩ := moves
    have own := transferArguments?_eq_some_iff.2 ⟨call?_withCall m kind.function args, allowed⟩
    have own' := transferArguments?_eq_some_iff.2 ⟨call?_withCall m kind.function args', allowed⟩
    rw [withTransfer_of_transferArguments? format own,
      withTransfer_of_transferArguments? format own']
    exact related_transfer format kind rfl rfl h
  · have declines (given : List String) (kind : TransferKind) :
        transferArguments? kind (m.withCall name given) = none := by
      by_contra some
      obtain ⟨own, hown⟩ := Option.ne_none_iff_exists'.1 some
      obtain ⟨call, allowed⟩ := transferArguments?_eq_some_iff.1 hown
      cases call
      exact moves ⟨kind, rfl, allowed⟩
    rw [withTransfer, withTransfer, findTransfer_eq_none format fun kind _ => declines args kind,
      findTransfer_eq_none format fun kind _ => declines args' kind]
    exact .ok (recased_withCall (.refl m) name h)

/-! ### Envelopes -/

theorem isEnvelope_congr (h : List.Forall₂ Hex.SameBytes args args') :
    IsEnvelope name args ↔ IsEnvelope name args' := by
  rw [IsEnvelope, IsEnvelope, h.length_eq]

/-- The transaction in an envelope does not depend on the case of the arguments. -/
theorem unwrap?_congr (format : Address.Format) (m : Metadata)
    (h : List.Forall₂ Hex.SameBytes args args') :
    unwrap? format (m.withCall name args) = unwrap? format (m.withCall name args') := by
  by_cases envelope : IsEnvelope name args
  · rcases envelope with ⟨rfl, one⟩ | ⟨rfl, four⟩
    · obtain _ | ⟨hpayload, _ | ⟨-, -⟩⟩ := h
      · cases one
      · change (unwrapPayload format _).map some = (unwrapPayload format _).map some
        rw [unwrapPayload, unwrapPayload, hexBytes, hexBytes, hpayload.ofText_eq]
      · cases one
    · obtain _ | ⟨hreceiver, _ | ⟨-, _ | ⟨hdata, _ | ⟨-, _ | ⟨-, -⟩⟩⟩⟩⟩ := h
      · cases four
      · cases four
      · cases four
      · cases four
      · change (unwrapArguments format _ _ _).map some = (unwrapArguments format _ _ _).map some
        rw [unwrapArguments, unwrapArguments, hexBytes, hexBytes, hdata.ofText_eq,
          Address.Format.encodeHex, Address.Format.encodeHex, Address.Format.hexBytes,
          Address.Format.hexBytes, hreceiver.ofText_eq]
        rfl
      · cases four
  · have closed := unwrap?_of_not_isEnvelope format (call?_withCall m name args) envelope
    have closed' := unwrap?_of_not_isEnvelope format (call?_withCall m name args')
      ((isEnvelope_congr h).not.1 envelope)
    rw [closed, closed']

theorem unwrap?_ne_none (format : Address.Format) (call : m.call? = some (name, args))
    (envelope : IsEnvelope name args) : unwrap? format m ≠ .ok none := by
  have opened : ∃ x : Except Fault Transaction, unwrap? format m = x.map some := by
    rcases envelope with ⟨rfl, one⟩ | ⟨rfl, four⟩
    · obtain ⟨payload, rfl⟩ := List.length_eq_one_iff.1 one
      exact ⟨unwrapPayload format payload, by rw [unwrap?, call]; rfl⟩
    · obtain _ | ⟨receiver, _ | ⟨_, _ | ⟨data, _ | ⟨_, _ | ⟨_, _⟩⟩⟩⟩⟩ := args
      · cases four
      · cases four
      · cases four
      · cases four
      · exact ⟨unwrapArguments format m.receiver receiver data, by rw [unwrap?, call]; rfl⟩
      · cases four
  obtain ⟨x, opened⟩ := opened
  rw [opened]
  cases x <;> simp [Except.map]

variable {tx other : Transaction}

theorem related_of_same {x : Except Fault Metadata} :
    Related Fault.Recased Metadata.Recased x x := by
  cases x with
  | error e => exact .error (.same e)
  | ok m => exact .ok (.refl m)

/-- Two transactions with calls that are the same but for the case of their arguments. -/
theorem related_describe (settings : Settings)
    (outer : (describeOuter tx).result = .ok (m.withCall name args))
    (outer' : (describeOuter other).result = .ok (m.withCall name args'))
    (h : List.Forall₂ Hex.SameBytes args args') :
    Related Fault.Recased Metadata.Recased (describe settings tx).result
        (describe settings other).result ∧
      (IsEnvelope name args →
        (describe settings tx).result = (describe settings other).result) := by
  have inside : inside? settings.format tx = inside? settings.format other := by
    rw [inside?, inside?, outer, outer']
    exact unwrap?_congr settings.format m h
  have own : inside? settings.format other = unwrap? settings.format (m.withCall name args') := by
    rw [inside?, outer']
    rfl
  by_cases closed : inside? settings.format other = .ok none
  · have plain := own.symm.trans closed
    refine ⟨?_, fun envelope => absurd plain ?_⟩
    · have plain' := (unwrap?_congr settings.format m h).trans plain
      rw [describe, describe, result_describeWith_of_unwrap?_none outer plain',
        result_describeWith_of_unwrap?_none outer' plain]
      exact related_withTransfer settings.format m name h
    · exact unwrap?_ne_none settings.format (call?_withCall m name args')
        ((isEnvelope_congr h).1 envelope)
  · have same : (describe settings tx).result = (describe settings other).result := by
      rw [describe, describe, result_describeWith, result_describeWith,
        result_describeInner_congr inside closed]
    rw [same]
    exact ⟨related_of_same, fun _ => rfl⟩

/-! ### Data fields -/

namespace IsRecased

variable {b c : UInt8}

theorem toLower_eq (h : IsRecased b c) :
    (Digit.ofByte b).toLower = (Digit.ofByte c).toLower := by
  obtain rfl | ⟨i, hi, letters⟩ := h
  · rfl
  have capital : ∀ i < 6, (Char.ofNat ('A'.toNat + i)).toLower = Char.ofNat ('a'.toNat + i) := by
    decide
  have small : ∀ i < 6, (Char.ofNat ('a'.toNat + i)).toLower = Char.ofNat ('a'.toNat + i) := by
    decide
  rw [Digit.ofByte, Digit.ofByte]
  rcases letters with ⟨hb, hc⟩ | ⟨hb, hc⟩
  · rw [hb, hc, capital i hi, small i hi]
  · rw [hb, hc, capital i hi, small i hi]

theorem separatorByte_iff (h : IsRecased b c) : b = separatorByte ↔ c = separatorByte := by
  obtain rfl | ⟨i, hi, letters⟩ := h
  · rfl
  have toNat : separatorByte.toNat = 64 := rfl
  simp only [Char.reduceToNat] at letters
  rw [← UInt8.toNat_inj, ← UInt8.toNat_inj, toNat]
  omega

end IsRecased

variable {p q : List UInt8} {ps qs : List (List UInt8)}

theorem map_toLower_of_isRecased (h : List.Forall₂ IsRecased p q) :
    (p.map Digit.ofByte).map Char.toLower = (q.map Digit.ofByte).map Char.toLower := by
  induction h with
  | nil => rfl
  | cons first _ ih => simp only [List.map_cons, first.toLower_eq, ih]

theorem isRun_congr (h : List.Forall₂ IsRecased p q) :
    Hex.IsRun (p.map Digit.ofByte) ↔ Hex.IsRun (q.map Digit.ofByte) :=
  ⟨Hex.isRun_of_map_toLower (map_toLower_of_isRecased h),
    Hex.isRun_of_map_toLower (map_toLower_of_isRecased h).symm⟩

theorem sameBytes_lossy (h : List.Forall₂ IsRecased p q) (run : Hex.IsRun (p.map Digit.ofByte)) :
    Hex.SameBytes (Utf8.lossy p) (Utf8.lossy q) := by
  refine Hex.sameBytes_of_toLower ?_ ((Hex.isText_lossy_iff p).2 run)
  rw [Hex.lossy_of_isRun run, Hex.lossy_of_isRun ((isRun_congr h).1 run), ← String.toList_inj,
    Hex.toList_toLower, Hex.toList_toLower, String.toList_ofList, String.toList_ofList,
    map_toLower_of_isRecased h]

theorem forall_isRun_congr (h : List.Forall₂ (List.Forall₂ IsRecased) ps qs) :
    (∀ p ∈ ps, Hex.IsRun (p.map Digit.ofByte)) ↔ ∀ q ∈ qs, Hex.IsRun (q.map Digit.ofByte) := by
  induction h with
  | nil => simp
  | cons first _ ih => rw [List.forall_mem_cons, List.forall_mem_cons, isRun_congr first, ih]

theorem forall₂_sameBytes (h : List.Forall₂ (List.Forall₂ IsRecased) ps qs)
    (runs : ∀ p ∈ ps, Hex.IsRun (p.map Digit.ofByte)) :
    List.Forall₂ Hex.SameBytes (ps.map Utf8.lossy) (qs.map Utf8.lossy) := by
  induction h with
  | nil => exact .nil
  | cons first _ ih =>
    rw [List.forall_mem_cons] at runs
    exact .cons (sameBytes_lossy first runs.1) (ih runs.2)

/-- The case of the letters behind the first `@` of a data field carries no meaning.  With letters
up to `f` in other cases, a transaction is described the same, or fails for the same reason, but for
the case of what is shown as it stands: arguments, identifiers, and a number that cannot be read.
An envelope shows none of it, and is described the same. -/
theorem describe_recased (settings : Settings) (sender receiver amount : String)
    {bs cs : List UInt8} (h : RecasedBehind bs cs) :
    Related Fault.Recased Metadata.Recased
        (describe settings ⟨sender, receiver, Base64.toText bs, amount⟩).result
        (describe settings ⟨sender, receiver, Base64.toText cs, amount⟩).result ∧
      ∀ name args, splitCall (Utf8.decodeLossy bs) = (name, args) → IsEnvelope name args →
        (describe settings ⟨sender, receiver, Base64.toText bs, amount⟩).result =
          (describe settings ⟨sender, receiver, Base64.toText cs, amount⟩).result := by
  obtain rfl | ⟨name, rest, rest', apart, rfl, rfl, recased⟩ := h
  · exact ⟨related_of_same, fun _ _ _ _ => rfl⟩
  have pieces := Text.pieces_append apart rest
  have pieces' := Text.pieces_append apart rest'
  have parts := Text.forall₂_pieces (fun _ _ => IsRecased.separatorByte_iff) recased
  rw [splitCall_decodeLossy pieces]
  cases hvalue : readValue amount with
  | error e =>
    have refused (data : String) :
        (describe settings ⟨sender, receiver, data, amount⟩).result = .error e := by
      rw [describe, result_describeWith, result_describeInner, result_describeOuter, hvalue]
      rfl
    rw [refused, refused]
    exact ⟨related_of_same, fun _ _ _ _ => rfl⟩
  | ok value =>
    have outer := result_describeOuter_of_pieces hvalue (by simp) pieces sender receiver
    have outer' := result_describeOuter_of_pieces hvalue (by simp) pieces' sender receiver
    by_cases runs : ∀ p ∈ Text.pieces separatorByte rest, Hex.IsRun (p.map Digit.ofByte)
    · have runs' := (forall_isRun_congr parts).1 runs
      rw [withCallIfHex, if_pos ((all_isText_map_lossy_iff _).2 runs)] at outer
      rw [withCallIfHex, if_pos ((all_isText_map_lossy_iff _).2 runs')] at outer'
      have arguments := forall₂_sameBytes parts runs
      obtain ⟨related, same⟩ := related_describe settings outer outer' arguments
      refine ⟨related, ?_⟩
      rintro _ _ ⟨⟩ envelope
      exact same envelope
    · have runs' := (forall_isRun_congr parts).not.1 runs
      rw [withCallIfHex, if_neg ((all_isText_map_lossy_iff _).not.2 runs)] at outer
      rw [withCallIfHex, if_neg ((all_isText_map_lossy_iff _).not.2 runs')] at outer'
      have closed := unwrap?_of_call?_none settings.format (call?_plain sender receiver value)
      rw [describe, describe, result_describeWith_of_unwrap?_none outer closed,
        result_describeWith_of_unwrap?_none outer' closed]
      exact ⟨related_of_same, fun _ _ _ _ => rfl⟩

theorem recasedBehind_append (name rest rest' : String) (apart : separatorByte ∉ Utf8.bytes name)
    (h : List.Forall₂ IsRecased (Utf8.bytes rest) (Utf8.bytes rest')) :
    RecasedBehind (Utf8.bytes name ++ separatorByte :: Utf8.bytes rest)
      (Utf8.bytes name ++ separatorByte :: Utf8.bytes rest') :=
  Or.inr ⟨_, _, _, apart, rfl, rfl, h⟩

/-- One token of a collection, sent by a call in small letters and by one in mixed case, and an
envelope in both. -/
theorem describe_recased_samples :
    (∃ m n, (describe ⟨"erd", 1, 1⟩ ⟨"a", "a",
        Base64.toText (Utf8.bytes "ESDTNFTTransfer@4e@0a@ff@cd"), ""⟩).result = .ok m ∧
      (describe ⟨"erd", 1, 1⟩ ⟨"a", "a",
        Base64.toText (Utf8.bytes "ESDTNFTTransfer@4E@0A@fF@CD"), ""⟩).result = .ok n ∧
      m.Recased n ∧ m ≠ n) ∧
    (describe ⟨"erd", 1, 1⟩ ⟨"a", "b",
        Base64.toText (Utf8.bytes "relayedTxV2@cd@@4a@"), ""⟩).result =
      (describe ⟨"erd", 1, 1⟩ ⟨"a", "b",
        Base64.toText (Utf8.bytes "relayedTxV2@CD@@4A@"), ""⟩).result := by
  have recased : RecasedBehind (Utf8.bytes "ESDTNFTTransfer@4e@0a@ff@cd")
      (Utf8.bytes "ESDTNFTTransfer@4E@0A@fF@CD") :=
    recasedBehind_append "ESDTNFTTransfer" "4e@0a@ff@cd" "4E@0A@fF@CD" (by decide +kernel)
      (by decide +kernel)
  have envelope : RecasedBehind (Utf8.bytes "relayedTxV2@cd@@4a@")
      (Utf8.bytes "relayedTxV2@CD@@4A@") :=
    recasedBehind_append "relayedTxV2" "cd@@4a@" "CD@@4A@" (by decide +kernel) (by decide +kernel)
  constructor
  · have small : (describe ⟨"erd", 1, 1⟩ ⟨"a", "a",
        Base64.toText (Utf8.bytes "ESDTNFTTransfer@4e@0a@ff@cd"), ""⟩).result =
          .ok ⟨"a", "erd1e5wg2ju6", 255, none, none, [⟨255, .nonFungible "N" "0a"⟩]⟩ := by
      decide +kernel
    have mixed : (describe ⟨"erd", 1, 1⟩ ⟨"a", "a",
        Base64.toText (Utf8.bytes "ESDTNFTTransfer@4E@0A@fF@CD"), ""⟩).result =
          .ok ⟨"a", "erd1e5wg2ju6", 255, none, none, [⟨255, .nonFungible "N" "0A"⟩]⟩ := by
      decide +kernel
    have related := (describe_recased ⟨"erd", 1, 1⟩ "a" "a" "" recased).1
    rw [small, mixed] at related
    cases related with
    | ok related => exact ⟨_, _, small, mixed, related, by decide⟩
  · have split : splitCall (Utf8.decodeLossy (Utf8.bytes "relayedTxV2@cd@@4a@")) =
        ("relayedTxV2", ["cd", "", "4a", ""]) := by decide +kernel
    exact (describe_recased ⟨"erd", 1, 1⟩ "a" "b" "" envelope).2 _ _ split (by decide)

end Transaction

end TxInspect
