import Mathlib.Tactic.Common
import TxInspect.Proofs.Number.Hexadecimal
import TxInspect.Proofs.Results
import TxInspect.Proofs.Transaction.Calls
import TxInspect.Proofs.Transaction.Transfers

/-!
# Amounts of transfers

The amount of a transfer stands at a place among the arguments that the kind of the transfer tells
(`TransferKind.amountPlace`), and nothing but an amount is accepted there, whatever the other
arguments are (`recognized?_amounts`).  An amount need not be a run of digits
(`not_forall_amount_isDigit`): it may have a plus in front, and `_` between its digits.
-/

namespace TxInspect.Transaction

open Results

/-- The place of the amount of the `i`-th transfer among the arguments. -/
def TransferKind.amountPlace (i : Nat) : TransferKind → Nat
  | .fungible => 1
  | .nonFungible => 2
  | .multiple => 3 * i + 4

/-- What the amount of a transfer is called in a fault. -/
def TransferKind.amount : TransferKind → Argument
  | .fungible | .nonFungible => .tokenValue
  | .multiple => .transferValue

/-- A call with these arguments has an amount at this place.  The call of many transfers says how
many they are. -/
def IsAmountPlace (args : List String) (place : Nat) : TransferKind → Prop
  | .multiple => ∃ count i, args[1]?.bind Hexadecimal.count? = some count ∧
      place = TransferKind.amountPlace i .multiple ∧ place < requiredArguments count
  | kind => place = kind.amountPlace 0

variable {format : Address.Format} {m moved : Metadata} {kind : TransferKind}
  {args : List String}

/-! ### The amount of a transfer that succeeds -/

theorem hexAmount_eq_ok {argument : Argument} {arg : String} {n : Nat}
    (h : hexAmount argument arg = .ok n) : Hexadecimal.amount? arg = some n := by
  rw [hexAmount] at h
  split at h
  · next value hvalue =>
    cases h
    exact hvalue
  · cases h

/-- The groups begin at every third place. -/
theorem getElem?_triples {α : Type} {xs : List α} {i : Nat} {group : α × α × α}
    (h : (triples xs)[i]? = some group) : xs[3 * i + 2]? = some group.2.2 := by
  fun_induction triples xs generalizing i with
  | case1 a b c rest ih =>
    cases i with
    | zero =>
      cases h
      rfl
    | succ i =>
      rw [show 3 * (i + 1) + 2 = 3 * i + 2 + 3 by omega]
      exact ih h
  | case2 => cases h

theorem amount?_of_groupTransfer {group : String × String × String} {t : TokenTransfer}
    (h : groupTransfer group = .ok t) : Hexadecimal.amount? group.2.2 = some t.value := by
  obtain ⟨token, nonce, amount⟩ := group
  obtain ⟨name, -, h⟩ := bind_eq_ok_iff.1 h
  obtain ⟨value, hvalue, h⟩ := bind_eq_ok_iff.1 h
  have own : t.value = value := by
    split at h <;> cases h <;> rfl
  rw [own]
  exact hexAmount_eq_ok hvalue

theorem exists_amount_of_fungibleTransfer (h : fungibleTransfer m args = .ok moved) {i : Nat}
    {t : TokenTransfer} (ht : moved.transfers[i]? = some t) :
    ∃ amount, args[1]? = some amount ∧ Hexadecimal.amount? amount = some t.value := by
  unfold fungibleTransfer at h
  split at h
  · next token amount rest =>
    obtain ⟨name, -, h⟩ := bind_eq_ok_iff.1 h
    obtain ⟨value, hvalue, h⟩ := bind_eq_ok_iff.1 h
    obtain ⟨inner, -, h⟩ := bind_eq_ok_iff.1 h
    cases h
    obtain rfl := List.mem_singleton.1 (List.mem_of_getElem? ht)
    exact ⟨amount, rfl, hexAmount_eq_ok hvalue⟩
  · cases h

theorem exists_amount_of_nonFungibleTransfer (h : nonFungibleTransfer format m args = .ok moved)
    {i : Nat} {t : TokenTransfer} (ht : moved.transfers[i]? = some t) :
    ∃ amount, args[2]? = some amount ∧ Hexadecimal.amount? amount = some t.value := by
  unfold nonFungibleTransfer at h
  split at h
  · next collection nonce amount receiver rest =>
    obtain ⟨-, -, h⟩ := bind_eq_ok_iff.1 h
    obtain ⟨name, -, h⟩ := bind_eq_ok_iff.1 h
    obtain ⟨value, hvalue, h⟩ := bind_eq_ok_iff.1 h
    obtain ⟨address, -, h⟩ := bind_eq_ok_iff.1 h
    obtain ⟨inner, -, h⟩ := bind_eq_ok_iff.1 h
    cases h
    obtain rfl := List.mem_singleton.1 (List.mem_of_getElem? ht)
    exact ⟨amount, rfl, hexAmount_eq_ok hvalue⟩
  · cases h

theorem exists_amount_of_multipleTransfer (h : multipleTransfer format m args = .ok moved)
    {i : Nat} {t : TokenTransfer} (ht : moved.transfers[i]? = some t) :
    ∃ amount, args[3 * i + 4]? = some amount ∧ Hexadecimal.amount? amount = some t.value := by
  unfold multipleTransfer at h
  split at h
  · next receiver number first rest =>
    obtain ⟨-, -, h⟩ := bind_eq_ok_iff.1 h
    obtain ⟨address, -, h⟩ := bind_eq_ok_iff.1 h
    split at h
    · next count _ =>
      dsimp only at h
      split_ifs at h
      · obtain ⟨_, few, -⟩ := bind_eq_ok_iff.1 h
        cases few
      obtain ⟨transfers, htransfers, h⟩ := bind_eq_ok_iff.1 h
      obtain ⟨inner, -, h⟩ := bind_eq_ok_iff.1 h
      cases h
      obtain ⟨group, hgroup, own⟩ := getElem?_of_mapM_eq_ok htransfers ht
      refine ⟨group.2.2, ?_, amount?_of_groupTransfer own⟩
      have place := getElem?_triples hgroup
      rw [List.getElem?_take] at place
      split_ifs at place
      exact place
    · cases h
  · cases h

theorem exists_amount_of_transfer (h : transfer format m args kind = .ok moved) {i : Nat}
    {t : TokenTransfer} (ht : moved.transfers[i]? = some t) :
    ∃ amount, args[kind.amountPlace i]? = some amount ∧
      Hexadecimal.amount? amount = some t.value := by
  cases kind with
  | fungible => exact exists_amount_of_fungibleTransfer h ht
  | nonFungible => exact exists_amount_of_nonFungibleTransfer h ht
  | multiple => exact exists_amount_of_multipleTransfer h ht

/-! ### Texts that are no amounts -/

/-- What is made of a text fails alike for all texts, or it refuses a text that is no amount for
this text. -/
def RefusesNoAmount {α : Type} (argument : Argument) (f : String → Except Fault α) : Prop :=
  (∃ e, ∀ text, f text = .error e) ∨
    ∀ text, ¬ Hexadecimal.IsAmount text.toList → f text = .error (.badNumber argument text)

section Rules

variable {α β : Type} {argument : Argument}

theorem refusesNoAmount_error (argument : Argument) (e : Fault) :
    RefusesNoAmount argument fun _ => (.error e : Except Fault α) :=
  Or.inl ⟨e, fun _ => rfl⟩

theorem refusesNoAmount_hexAmount (argument : Argument) :
    RefusesNoAmount argument (hexAmount argument) := by
  refine Or.inr fun text none => ?_
  rw [hexAmount]
  split
  · next n hn => exact absurd (Hexadecimal.amount?_eq_some_iff.1 hn).1 none
  · rfl

/-- What comes after a refusal does not matter. -/
theorem RefusesNoAmount.bind {f : String → Except Fault α} (h : RefusesNoAmount argument f)
    (g : String → α → Except Fault β) : RefusesNoAmount argument fun text => f text >>= g text := by
  rcases h with ⟨e, he⟩ | h
  · refine Or.inl ⟨e, fun text => ?_⟩
    dsimp only
    rw [he text]
    rfl
  · refine Or.inr fun text none => ?_
    dsimp only
    rw [h text none]
    rfl

theorem RefusesNoAmount.map {f : String → Except Fault α} (h : RefusesNoAmount argument f)
    (g : α → β) : RefusesNoAmount argument fun text => (f text).map g := by
  rcases h with ⟨e, he⟩ | h
  · refine Or.inl ⟨e, fun text => ?_⟩
    dsimp only
    rw [he text]
    rfl
  · refine Or.inr fun text none => ?_
    dsimp only
    rw [h text none]
    rfl

/-- What comes before fails for all texts or for none. -/
theorem RefusesNoAmount.after {f : String → α → Except Fault β}
    (h : ∀ a, RefusesNoAmount argument fun text => f text a) (x : Except Fault α) :
    RefusesNoAmount argument fun text => x >>= f text := by
  cases x with
  | error e => exact refusesNoAmount_error argument e
  | ok a => exact h a

end Rules

theorem refusesNoAmount_groupTransfer (token nonce : String) :
    RefusesNoAmount .transferValue fun text => groupTransfer (token, nonce, text) :=
  RefusesNoAmount.after (fun _ => (refusesNoAmount_hexAmount .transferValue).bind _) _

/-- The groups are read in order, and each of them fails before the next one. -/
theorem refusesNoAmount_groups {xs : List String} {i size : Nat} (fits : 3 * i + 2 < size)
    (enough : 3 * i + 2 < xs.length) :
    RefusesNoAmount .transferValue fun text =>
      (triples ((xs.set (3 * i + 2) text).take size)).mapM groupTransfer := by
  induction i generalizing xs size with
  | zero =>
    obtain ⟨more, rfl⟩ : ∃ more, size = more + 3 := ⟨size - 3, by omega⟩
    match xs, enough with
    | a :: b :: c :: rest, _ =>
      simp only [Nat.mul_zero, Nat.zero_add, List.set_cons_succ, List.set_cons_zero,
        List.take_succ_cons, triples, List.mapM_cons]
      exact (refusesNoAmount_groupTransfer a b).bind _
  | succ i ih =>
    rw [Nat.mul_succ] at fits enough ⊢
    obtain ⟨more, rfl⟩ : ∃ more, size = more + 3 := ⟨size - 3, by omega⟩
    match xs, enough with
    | a :: b :: c :: rest, enough =>
      simp only [List.length_cons] at enough
      have next : RefusesNoAmount .transferValue fun text =>
          (triples ((rest.set (3 * i + 2) text).take more)).mapM groupTransfer :=
        ih (by omega) (by omega)
      rw [show 3 * i + 3 + 2 = 3 * i + 2 + 3 by omega]
      simp only [List.set_cons_succ, List.take_succ_cons, triples, List.mapM_cons]
      exact .after (fun _ => next.bind _) _

theorem refusesNoAmount_fungible (m : Metadata) (args : List String) :
    RefusesNoAmount .tokenValue fun text => fungibleTransfer m (args.set 1 text) := by
  match args with
  | token :: amount :: rest =>
    simp only [fungibleTransfer, List.set_cons_succ, List.set_cons_zero]
    exact .after (fun _ => (refusesNoAmount_hexAmount _).bind _) _
  | [_] => exact refusesNoAmount_error _ (.fewArguments .fungible 2 1)
  | [] => exact refusesNoAmount_error _ (.fewArguments .fungible 2 0)

theorem refusesNoAmount_nonFungible (format : Address.Format) (m : Metadata)
    (args : List String) :
    RefusesNoAmount .tokenValue fun text => nonFungibleTransfer format m (args.set 2 text) := by
  match args with
  | collection :: nonce :: amount :: receiver :: rest =>
    simp only [nonFungibleTransfer, List.set_cons_succ, List.set_cons_zero]
    exact .after (fun _ => .after (fun _ => (refusesNoAmount_hexAmount _).bind _) _) _
  | [_, _, _] => exact refusesNoAmount_error _ (.fewArguments .nonFungible 4 3)
  | [_, _] => exact refusesNoAmount_error _ (.fewArguments .nonFungible 4 2)
  | [_] => exact refusesNoAmount_error _ (.fewArguments .nonFungible 4 1)
  | [] => exact refusesNoAmount_error _ (.fewArguments .nonFungible 4 0)

theorem refusesNoAmount_multiple (format : Address.Format) (m : Metadata) {i count : Nat}
    (hcount : args[1]?.bind Hexadecimal.count? = some count)
    (read : 3 * i + 4 < requiredArguments count) :
    RefusesNoAmount .transferValue fun text =>
      multipleTransfer format m (args.set (3 * i + 4) text) := by
  match args with
  | receiver :: number :: first :: rest =>
    have counted : Hexadecimal.count? number = some count := hcount
    simp only [multipleTransfer, List.set_cons_succ, counted]
    refine .after (fun _ => .after (fun _ => ?_) _) _
    have whole : ∀ text, first :: rest.set (3 * i + 1) text =
        (first :: rest).set (3 * i + 2) text := fun _ => rfl
    simp only [whole, List.length_set]
    by_cases few : (first :: rest).length + 2 < requiredArguments count
    · simp only [if_pos few]
      exact refusesNoAmount_error _ _
    · simp only [if_neg few]
      exact (refusesNoAmount_groups (by omega) (by omega)).bind _
  | [_, _] => exact refusesNoAmount_error _ (.fewArguments .multiple 3 2)
  | [_] => exact refusesNoAmount_error _ (.fewArguments .multiple 3 1)
  | [] => exact refusesNoAmount_error _ (.fewArguments .multiple 3 0)

/-- A call refuses a text that is no amount in the place of one, unless it fails anyway. -/
theorem refusesNoAmount_transfer (format : Address.Format) (m : Metadata) {place : Nat}
    (h : IsAmountPlace args place kind) :
    RefusesNoAmount kind.amount fun text => transfer format m (args.set place text) kind := by
  cases kind with
  | fungible =>
    obtain rfl : place = 1 := h
    exact refusesNoAmount_fungible m args
  | nonFungible =>
    obtain rfl : place = 2 := h
    exact refusesNoAmount_nonFungible format m args
  | multiple =>
    obtain ⟨count, i, hcount, rfl, read⟩ := h
    exact refusesNoAmount_multiple format m hcount read

/-! ### Recognizers -/

/-- A transfer is read from its arguments, its sender and its receiver alone. -/
theorem recognized?_withCall (format : Address.Format)
    (allowed : kind = .fungible ∨ m.sender = m.receiver) (args : List String) :
    recognized? kind format (m.withCall kind.function args) =
      (transfer format m args kind).map some := by
  have arguments : transferArguments? kind (m.withCall kind.function args) = some args :=
    transferArguments?_eq_some_iff.2 ⟨call?_withCall m kind.function args, allowed⟩
  rw [recognized?, arguments]
  cases kind <;> rfl

/-- The amounts that a recognizer reads, whatever the arguments are.  If it answers with a
description, the amount of every transfer is the number of the digits in the argument at its place:
this is a run of digits with `_` anywhere but in front, after at most one `+`, so that without these
two signs it is a run of digits and the amount is its number.  Every other text at the place of an
amount is a fault that shows the text, unless the call fails alike for all texts there. -/
theorem recognized?_amounts (format : Address.Format) (kind : TransferKind) (m : Metadata) :
    (∀ moved, recognized? kind format m = .ok (some moved) →
      ∃ args, m.call? = some (kind.function, args) ∧ ∀ i t, moved.transfers[i]? = some t →
        ∃ amount, args[kind.amountPlace i]? = some amount ∧
          Hexadecimal.IsAmount amount.toList ∧
          t.value = Hexadecimal.number (amount.toList.filter fun c => Hex.IsDigit c) ∧
          ('+' ∉ amount.toList → '_' ∉ amount.toList →
            amount ≠ "" ∧ (∀ c ∈ amount.toList, Hex.IsDigit c) ∧
              t.value = Hexadecimal.number amount.toList)) ∧
    ∀ args place, kind = .fungible ∨ m.sender = m.receiver → IsAmountPlace args place kind →
      (∃ e, ∀ text,
        recognized? kind format (m.withCall kind.function (args.set place text)) = .error e) ∨
      ∀ text, ¬ Hexadecimal.IsAmount text.toList →
        recognized? kind format (m.withCall kind.function (args.set place text)) =
          .error (.badNumber kind.amount text) := by
  constructor
  · intro moved h
    obtain ⟨args, arguments, transferred⟩ := recognized?_eq_some h
    refine ⟨args, (transferArguments?_eq_some_iff.1 arguments).1, fun i t ht => ?_⟩
    obtain ⟨amount, place, value⟩ := exists_amount_of_transfer transferred ht
    obtain ⟨isAmount, number⟩ := Hexadecimal.amount?_eq_some_iff.1 value
    refine ⟨amount, place, isAmount, number, fun noPlus noLine => ?_⟩
    obtain ⟨nonempty, digits, all⟩ := isAmount.isDigit noPlus noLine
    rw [all] at number
    exact ⟨mt String.toList_eq_nil_iff.2 nonempty, digits, number⟩
  · intro args place allowed isPlace
    simp only [recognized?_withCall format allowed]
    exact (refusesNoAmount_transfer format m isPlace).map some

/-- A call with the amount `1_0`. -/
def sampleParted : Metadata :=
  (Metadata.plain "a" "b" 0).withCall "ESDTTransfer" ["54", "1_0"]

theorem recognized?_sampleParted : recognized? .fungible ⟨"erd", 1⟩ sampleParted =
    .ok (some ⟨"a", "b", 16, none, none, [⟨16, .fungible "T"⟩]⟩) := by
  decide +kernel

theorem recognized?_amounts_sample :
    (∃ amount, ["54", "1_0"][1]? = some amount ∧ Hexadecimal.IsAmount amount.toList) ∧
      recognized? .fungible ⟨"erd", 1⟩ ((Metadata.plain "a" "b" 0).withCall "ESDTTransfer"
        ["54", "-1"]) = .error (.badNumber .tokenValue "-1") := by
  obtain ⟨accepted, refused⟩ := recognized?_amounts ⟨"erd", 1⟩ .fungible sampleParted
  constructor
  · obtain ⟨args, call, amounts⟩ := accepted _ recognized?_sampleParted
    cases call
    obtain ⟨amount, place, isAmount, -⟩ := amounts 0 _ rfl
    exact ⟨amount, place, isAmount⟩
  · rcases refused ["54", ""] 1 (Or.inl rfl) rfl with ⟨e, he⟩ | h
    · have one : recognized? .fungible ⟨"erd", 1⟩ (sampleParted.withCall "ESDTTransfer"
          ["54", "1"]) = .ok (some ⟨"a", "b", 1, none, none, [⟨1, .fungible "T"⟩]⟩) := by
        decide +kernel
      cases one.symm.trans (he "1")
    · exact h "-1" (by decide)

/-- Digits alone are not all that is accepted as an amount. -/
theorem not_forall_amount_isDigit :
    ¬ ∀ (format : Address.Format) (kind : TransferKind) (m moved : Metadata) (args : List String),
      recognized? kind format m = .ok (some moved) → m.call? = some (kind.function, args) →
        ∀ i t, moved.transfers[i]? = some t → ∃ amount, args[kind.amountPlace i]? = some amount ∧
          amount ≠ "" ∧ (∀ c ∈ amount.toList, Hex.IsDigit c) ∧
            t.value = Hexadecimal.number amount.toList := by
  intro h
  obtain ⟨amount, place, -, digits, -⟩ :=
    h ⟨"erd", 1⟩ .fungible sampleParted _ _ recognized?_sampleParted rfl 0 _ rfl
  cases place
  exact absurd (digits '_' (by decide)) (by decide)

end TxInspect.Transaction
