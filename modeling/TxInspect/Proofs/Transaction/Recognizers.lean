import Mathlib.Tactic.Common
import TxInspect.Proofs.Transaction.ByteCalls

/-!
# Recognizers of transfers

A recognizer declines a transaction that does not make its call (`recognized?_eq_ok_none_iff`).
The calls have different names, so no two recognizers answer the same transaction
(`transferArguments?_of_ne`), and the order in which they are asked does not matter
(`findTransfer_perm`).  A transfer is described with the call that the arguments behind its own
state (`exists_withInnerCall`), and so never with the call that it was recognized from
(`recognized?_exclusive`).
-/

namespace TxInspect.Transaction

open Results

variable {format : Address.Format} {m moved : Metadata} {kind : TransferKind} {name : String}
  {args rest : List String}

/-! ### One kind only -/

theorem function_injective {kind other : TransferKind} (h : kind.function = other.function) :
    kind = other := by
  cases kind <;> cases other <;> first | rfl | exact absurd h (by decide)

theorem transferArguments?_of_ne (h : transferArguments? kind m = some args)
    {other : TransferKind} (ne : other ≠ kind) : transferArguments? other m = none := by
  by_contra some
  obtain ⟨otherArgs, hother⟩ := Option.ne_none_iff_exists'.1 some
  have call := (transferArguments?_eq_some_iff.1 h).1
  have otherCall := (transferArguments?_eq_some_iff.1 hother).1
  rw [call, Option.some.injEq, Prod.mk.injEq] at otherCall
  exact ne (function_injective otherCall.1.symm)

/-- The kinds that are looked for before decline. -/
theorem findTransfer_of_transferArguments? (format : Address.Format)
    (h : transferArguments? kind m = some args) {kinds : List TransferKind} (mem : kind ∈ kinds) :
    findTransfer format m kinds =
      (transfer format m args kind).map fun moved => some (kind, moved) := by
  induction kinds with
  | nil => cases mem
  | cons first kinds ih =>
    rw [findTransfer, recognized?]
    by_cases same : first = kind
    · subst same
      rw [h]
      dsimp only
      cases transfer format m args first <;> rfl
    · rw [transferArguments?_of_ne h same]
      exact ih (List.mem_of_ne_of_mem (Ne.symm same) mem)

theorem withTransfer_of_transferArguments? (format : Address.Format)
    (h : transferArguments? kind m = some args) :
    withTransfer format m = transfer format m args kind := by
  have looked : kind ∈ TransferKind.all := by cases kind <;> decide
  rw [withTransfer, findTransfer_of_transferArguments? format h looked]
  cases transfer format m args kind <;> rfl

/-- Kinds are looked for in any order. -/
theorem findTransfer_perm (format : Address.Format) (m : Metadata)
    {kinds others : List TransferKind} (perm : kinds.Perm others) :
    findTransfer format m kinds = findTransfer format m others := by
  by_cases answers : ∃ kind ∈ kinds, ∃ args, transferArguments? kind m = some args
  · obtain ⟨kind, mem, args, h⟩ := answers
    rw [findTransfer_of_transferArguments? format h mem,
      findTransfer_of_transferArguments? format h (perm.mem_iff.1 mem)]
  · have declines : ∀ kind ∈ kinds, transferArguments? kind m = none := by
      intro kind mem
      by_contra some
      exact answers ⟨kind, mem, Option.ne_none_iff_exists'.1 some⟩
    rw [findTransfer_eq_none format declines,
      findTransfer_eq_none format fun kind mem => declines kind (perm.mem_iff.2 mem)]

/-! ### Declining -/

theorem recognized?_eq_ok_none_iff :
    recognized? kind format m = .ok none ↔ transferArguments? kind m = none := by
  unfold recognized?
  split
  · next h => exact iff_of_true rfl h
  · next args h =>
    refine iff_of_false ?_ (by rw [h]; exact nofun)
    cases transfer format m args kind <;> exact nofun

theorem transferArguments?_eq_none_iff : transferArguments? kind m = none ↔
    m.functionName = none ∨ m.functionArgs = none ∨ m.functionName ≠ some kind.function ∨
      kind ≠ .fungible ∧ m.sender ≠ m.receiver := by
  constructor
  · intro h
    by_contra other
    simp only [not_or] at other
    obtain ⟨-, hargs, hname, allowed⟩ := other
    obtain ⟨args, hargs⟩ := Option.ne_none_iff_exists'.1 hargs
    have arguments : transferArguments? kind m = some args :=
      transferArguments?_eq_some_iff.2
        ⟨call?_eq_some_iff.2 ⟨not_not.1 hname, hargs⟩, by tauto⟩
    rw [h] at arguments
    cases arguments
  · intro h
    by_contra some
    obtain ⟨args, hargs⟩ := Option.ne_none_iff_exists'.1 some
    obtain ⟨call, allowed⟩ := transferArguments?_eq_some_iff.1 hargs
    obtain ⟨hname, hargs⟩ := call?_eq_some_iff.1 call
    rw [hname, hargs] at h
    rcases h with h | h | h | ⟨kind, other⟩
    · cases h
    · cases h
    · exact h rfl
    · exact allowed.elim kind other

/-! ### What is left over -/

/-- The number of arguments that say what is moved, and to whom.  A call of many transfers says how
many they are. -/
def TransferKind.ownArguments (args : List String) : TransferKind → Nat
  | .fungible => 2
  | .nonFungible => 4
  | .multiple => requiredArguments ((args[1]?.bind Hexadecimal.count?).getD 0)

/-- The call of a transaction is the one that the arguments state: a name in hexadecimal, and
arguments as they stand.  Without arguments there is no call. -/
def HasCallOf (m : Metadata) : List String → Prop
  | [] => m.functionName = none ∧ m.functionArgs = none
  | function :: args => ∃ bs, Hex.ofText function = .ok bs ∧
    m.functionName = some (Utf8.lossy bs) ∧ m.functionArgs = some args

theorem hasCallOf_of_withInnerCall {sender receiver : String} {value : Nat}
    (h : withInnerCall (.plain sender receiver value) args = .ok moved) : HasCallOf moved args := by
  cases args with
  | nil =>
    cases h
    exact ⟨rfl, rfl⟩
  | cons function args =>
    obtain ⟨text, htext, h⟩ := bind_eq_ok_iff.1 h
    cases h
    rw [hexText] at htext
    split at htext
    · next bs hbs =>
      cases htext
      exact ⟨bs, hbs, rfl, rfl⟩
    · cases htext

/-- A transfer is described with the call that the arguments behind its own make. -/
theorem exists_withInnerCall (h : transfer format m args kind = .ok moved) :
    2 ≤ kind.ownArguments args ∧ kind.ownArguments args ≤ args.length ∧
      ∃ receiver value inner,
        withInnerCall (.plain m.sender receiver value) (args.drop (kind.ownArguments args)) =
          .ok inner ∧ moved = { inner with transfers := moved.transfers } := by
  cases kind with
  | fungible =>
    change fungibleTransfer m args = .ok moved at h
    unfold fungibleTransfer at h
    split at h
    · next token amount behind =>
      obtain ⟨_, -, h⟩ := bind_eq_ok_iff.1 h
      obtain ⟨_, -, h⟩ := bind_eq_ok_iff.1 h
      obtain ⟨inner, hinner, h⟩ := bind_eq_ok_iff.1 h
      cases h
      exact ⟨le_rfl, Nat.le_add_left 2 _, _, _, inner, hinner, rfl⟩
    · cases h
  | nonFungible =>
    change nonFungibleTransfer format m args = .ok moved at h
    unfold nonFungibleTransfer at h
    split at h
    · next collection nonce amount receiver behind =>
      obtain ⟨_, -, h⟩ := bind_eq_ok_iff.1 h
      obtain ⟨_, -, h⟩ := bind_eq_ok_iff.1 h
      obtain ⟨_, -, h⟩ := bind_eq_ok_iff.1 h
      obtain ⟨_, -, h⟩ := bind_eq_ok_iff.1 h
      obtain ⟨inner, hinner, h⟩ := bind_eq_ok_iff.1 h
      cases h
      exact ⟨Nat.le_add_left 2 2, Nat.le_add_left 4 _, _, _, inner, hinner, rfl⟩
    · cases h
  | multiple =>
    change multipleTransfer format m args = .ok moved at h
    unfold multipleTransfer at h
    split at h
    · next receiver number first behind =>
      obtain ⟨_, -, h⟩ := bind_eq_ok_iff.1 h
      obtain ⟨text, -, h⟩ := bind_eq_ok_iff.1 h
      split at h
      · next count hcount =>
        dsimp only at h
        split_ifs at h with few
        · obtain ⟨_, few, -⟩ := bind_eq_ok_iff.1 h
          cases few
        obtain ⟨_, -, h⟩ := bind_eq_ok_iff.1 h
        obtain ⟨inner, hinner, h⟩ := bind_eq_ok_iff.1 h
        cases h
        have own : TransferKind.ownArguments (receiver :: number :: first :: behind) .multiple =
            requiredArguments count := by
          simp [TransferKind.ownArguments, hcount]
        have two : 2 ≤ requiredArguments count :=
          le_min (Nat.le_add_right 2 _) (by decide)
        obtain ⟨more, hmore⟩ := Nat.exists_eq_add_of_le' two
        rw [hmore, Nat.add_sub_cancel] at hinner
        rw [own]
        refine ⟨two, Nat.le_of_not_lt few, text, 0, inner, ?_, rfl⟩
        rw [hmore]
        exact hinner
      · cases h
    · cases h

theorem hasCallOf_of_transfer (h : transfer format m args kind = .ok moved) :
    HasCallOf moved (args.drop (kind.ownArguments args)) := by
  obtain ⟨-, -, receiver, value, inner, hinner, hmoved⟩ := exists_withInnerCall h
  rw [hmoved]
  have own := hasCallOf_of_withInnerCall hinner
  cases hbehind : args.drop (kind.ownArguments args) with
  | nil => rwa [hbehind] at own
  | cons function rest => rwa [hbehind] at own

/-- The call that follows a transfer has fewer arguments. -/
theorem length_lt_of_transfer (h : transfer format m args kind = .ok moved)
    (call : moved.call? = some (name, rest)) : rest.length < args.length := by
  have own := hasCallOf_of_transfer h
  have hargs := (call?_eq_some_iff.1 call).2
  have length := List.length_drop (l := args) (i := kind.ownArguments args)
  cases hbehind : args.drop (kind.ownArguments args) with
  | nil =>
    rw [hbehind] at own
    cases own.2.symm.trans hargs
  | cons function behind =>
    rw [hbehind] at own length
    obtain ⟨-, -, -, same⟩ := own
    cases same.symm.trans hargs
    rw [List.length_cons] at length
    omega

/-! ### All recognizers -/

/-- Describes a transaction, looking for the kinds of transfers in a given order. -/
def describeInOrder (format : Address.Format) (kinds : List TransferKind) (maxDepth : Nat)
    (tx : Transaction) : Description Metadata := do
  let m ← describeInner format 0 maxDepth tx
  match ← .ofResult (findTransfer format m kinds) with
  | some (kind, moved) =>
    .note (.transfer kind moved.transfers.length)
    return moved
  | none =>
    .note (.noTransfer m.functionName)
    return m

theorem describeInOrder_perm (format : Address.Format) {kinds others : List TransferKind}
    (perm : kinds.Perm others) (max : Nat) (tx : Transaction) :
    describeInOrder format kinds max tx = describeInOrder format others max tx := by
  simp only [describeInOrder, findTransfer_perm format _ perm]

/-- Which recognizer answers, and what it leaves.  A recognizer declines a transaction that makes no
call, that makes the call of another name, or, for all but fungible tokens, that is not sent to its
own sender; the arguments do not matter.  So at most one of them answers, a description is the same
with its events in whatever order they are asked, and without an answer it is that of the
transaction by itself.  What is recognized is described with the call that the arguments behind the
recognizer's own make, or without a call if there are none, and not with its own call. -/
theorem recognized?_exclusive (format : Address.Format) (m : Metadata) :
    (∀ kind, recognized? kind format m = .ok none ↔
      m.functionName = none ∨ m.functionArgs = none ∨ m.functionName ≠ some kind.function ∨
        kind ≠ .fungible ∧ m.sender ≠ m.receiver) ∧
    (∀ kind other, recognized? kind format m ≠ .ok none →
      recognized? other format m ≠ .ok none → kind = other) ∧
    (∀ kinds max tx, kinds.Perm TransferKind.all →
      describeInOrder format kinds max tx = describeWith format max tx) ∧
    (∀ max tx, (describeInner format 0 max tx).result = .ok m →
      (∀ kind, recognized? kind format m = .ok none) →
        (describeWith format max tx).result = .ok m) ∧
    ∀ kind moved, recognized? kind format m = .ok (some moved) →
      ∃ args, m.call? = some (kind.function, args) ∧ kind.ownArguments args ≤ args.length ∧
        HasCallOf moved (args.drop (kind.ownArguments args)) ∧
        moved.call? ≠ some (kind.function, args) := by
  refine ⟨fun kind => ?_, ?_, ?_, ?_, ?_⟩
  · exact recognized?_eq_ok_none_iff.trans transferArguments?_eq_none_iff
  · intro kind other answers also
    rw [Ne, recognized?_eq_ok_none_iff] at answers also
    obtain ⟨args, hargs⟩ := Option.ne_none_iff_exists'.1 answers
    by_contra ne
    exact also (transferArguments?_of_ne hargs (Ne.symm ne))
  · intro kinds max tx perm
    exact describeInOrder_perm format perm max tx
  · intro max tx inner declined
    have none : findTransfer format m TransferKind.all = .ok none :=
      findTransfer_eq_none format fun kind _ => recognized?_eq_ok_none_iff.1 (declined kind)
    rw [result_describeWith, inner]
    change withTransfer format m = .ok m
    rw [withTransfer, none]
    rfl
  · intro kind moved h
    obtain ⟨args, arguments, transferred⟩ := recognized?_eq_some h
    obtain ⟨-, enough, -⟩ := exists_withInnerCall transferred
    refine ⟨args, (transferArguments?_eq_some_iff.1 arguments).1, enough,
      hasCallOf_of_transfer transferred, fun same => ?_⟩
    exact Nat.lt_irrefl _ (length_lt_of_transfer transferred same)

/-- A transfer with the call of another transfer behind it. -/
def sampleChained : Metadata :=
  (Metadata.plain "a" "b" 0).withCall "ESDTTransfer"
    ["54", "0a", Hex.toText (Utf8.bytes "ESDTTransfer"), "55", "0b"]

theorem recognized?_sampleChained :
    recognized? .nonFungible ⟨"erd", 1⟩ sampleChained = .ok none ∧
      describeInOrder ⟨"erd", 1⟩ [.multiple, .fungible, .nonFungible] 0 ⟨"a", "b", "", ""⟩ =
        describeWith ⟨"erd", 1⟩ 0 ⟨"a", "b", "", ""⟩ ∧
      ∃ moved, recognized? .fungible ⟨"erd", 1⟩ sampleChained = .ok (some moved) ∧
        moved.functionArgs = some ["55", "0b"] ∧ moved.call? ≠ sampleChained.call? := by
  obtain ⟨declines, -, order, -, leaves⟩ := recognized?_exclusive ⟨"erd", 1⟩ sampleChained
  have recognized : recognized? .fungible ⟨"erd", 1⟩ sampleChained =
      .ok (some ⟨"a", "b", 10, some "ESDTTransfer", some ["55", "0b"], [⟨10, .fungible "T"⟩]⟩) := by
    decide +kernel
  refine ⟨(declines .nonFungible).2 (Or.inr (Or.inr (Or.inl (by decide)))),
    order _ 0 _ (by decide), _, recognized, ?_⟩
  obtain ⟨args, call, -, own, other⟩ := leaves .fungible _ recognized
  cases call
  obtain ⟨-, -, -, hargs⟩ := own
  exact ⟨hargs, other⟩

end TxInspect.Transaction
