import Mathlib.Tactic.Common
import TxInspect.Proofs.Address.Validity
import TxInspect.Proofs.Transaction.Arguments

/-!
# Several transfers in one call

The call states a receiver, a number of transfers, three arguments for each of them (`triples_take`)
and a call that follows.  What comes of it is a table (`multipleTable`): five things can be wrong,
and the first of them counts; otherwise each group is a transfer of its own (`groupMeaning`).  A
transaction that makes such a call on its sender is described by the table
(`recognized?_multiple`).
-/

namespace TxInspect.Transaction

open Results

/-- The transfer that token, nonce and amount state.  A nonce of 1 to `2 ^ 63 - 1` makes the token
one of a collection, and the nonce stands in its identifier as it is written. -/
def groupMeaning : String × String × String → TokenTransfer
  | (token, nonce, amount) =>
    if 1 ≤ argumentNumber nonce ∧ argumentNumber nonce ≤ 2 ^ 63 - 1 then
      { value := argumentNumber amount
        token :=
          { token := ""
            collection := argumentText token
            identifier := argumentText token ++ "-" ++ nonce } }
    else
      { value := argumentNumber amount
        token :=
          { token := argumentText token
            collection := ""
            identifier := "" } }

/-- The description of `count` transfers: each of them is made of three arguments, and the arguments
behind the last one are the call that follows. -/
def movedTokens (receiver : String) (m : Metadata) (args : List String) (count : Nat) :
    Metadata where
  sender := m.sender
  receiver := receiver
  value := 0
  functionName := (args.drop (3 * count + 2)).head?.map argumentText
  functionArgs := (args.drop (3 * count + 2)).tail?
  transfers := (List.range count).map fun i => groupMeaning
    (args.getD (3 * i + 2) "", args.getD (3 * i + 3) "", args.getD (3 * i + 4) "")

/-- What comes of a call with these arguments, given the text of the receiver: the first row that
applies. -/
def multipleTable (size : Nat) (receiver : String) (m : Metadata) (args : List String) :
    Except Fault Metadata :=
  if args.length < 3 then .error (.fewArguments .multiple 3 args.length)
  else if (argumentBytes (args.getD 0 "")).length ≠ size then .error .badAddress
  else if args.getD 1 "" = "" ∨ 2 ^ 64 ≤ argumentNumber (args.getD 1 "") then
    .error (.badNumber .transferCount (args.getD 1 ""))
  else if args.length < 3 * argumentNumber (args.getD 1 "") + 2 then
    .error (.fewArguments .multiple (min (3 * argumentNumber (args.getD 1 "") + 2) (2 ^ 64 - 1))
      args.length)
  else if ∃ i < argumentNumber (args.getD 1 ""), args.getD (3 * i + 4) "" = "" then
    .error (.badNumber .transferValue "")
  else .ok (movedTokens receiver m args (argumentNumber (args.getD 1 "")))

/-! ### Groups -/

/-- Groups of three begin at every third place. -/
theorem triples_take {α : Type} (default : α) {count : Nat} {xs : List α}
    (h : 3 * count ≤ xs.length) :
    triples (xs.take (3 * count)) = (List.range count).map fun i =>
      (xs.getD (3 * i) default, xs.getD (3 * i + 1) default, xs.getD (3 * i + 2) default) := by
  induction count generalizing xs with
  | zero => rfl
  | succ count ih =>
    match xs with
    | a :: b :: c :: rest =>
      have fits : 3 * count ≤ rest.length := by
        simp only [List.length_cons] at h
        omega
      rw [Nat.mul_succ, List.take_succ_cons, List.take_succ_cons, List.take_succ_cons, triples,
        ih fits, List.range_succ_eq_map, List.map_cons, List.map_map]
      rfl
    | [_, _] | [_] | [] =>
      simp only [List.length_cons, List.length_nil] at h
      omega

/-- A group fails only for an amount without digits. -/
theorem groupTransfer_of_isText {token nonce amount : String} (htoken : Hex.isText token = true)
    (hnonce : Hex.isText nonce = true) (hamount : Hex.isText amount = true) :
    groupTransfer (token, nonce, amount) =
      if amount = "" then .error (.badNumber .transferValue "")
      else .ok (groupMeaning (token, nonce, amount)) := by
  have number := Hexadecimal.nonce?_of_isDigit ((Hex.isText_iff nonce).1 hnonce).2
  rw [← argumentNumber] at number
  rw [groupTransfer, hexText_of_isText htoken, hexAmount_of_isText hamount, number, groupMeaning]
  by_cases empty : amount = ""
  · rw [if_pos empty, if_pos empty]
    rfl
  · rw [if_neg empty, if_neg empty]
    by_cases positive : 1 ≤ argumentNumber nonce ∧ argumentNumber nonce ≤ 2 ^ 63 - 1
    · rw [if_pos positive, if_pos positive]
      rfl
    · rw [if_neg positive, if_neg positive]
      rfl

section Groups

variable {args : List String} {count : Nat}

theorem isText_getD (hex : ∀ arg ∈ args, Hex.isText arg = true) (i : Nat) :
    Hex.isText (args.getD i "") = true := by
  rw [List.getD_eq_getElem?_getD]
  cases h : args[i]? with
  | none => rfl
  | some arg => exact hex arg (List.mem_of_getElem? h)

/-- The groups are transfers unless one of them lacks an amount. -/
theorem mapM_groupTransfer (hex : ∀ arg ∈ args, Hex.isText arg = true)
    (enough : 3 * count ≤ args.length) :
    (triples (args.take (3 * count))).mapM groupTransfer =
      if ∃ i < count, args.getD (3 * i + 2) "" = "" then .error (.badNumber .transferValue "")
      else .ok ((List.range count).map fun i => groupMeaning
        (args.getD (3 * i) "", args.getD (3 * i + 1) "", args.getD (3 * i + 2) "")) := by
  rw [triples_take "" enough, List.mapM_map]
  have each : ∀ i ∈ List.range count, groupTransfer
        (args.getD (3 * i) "", args.getD (3 * i + 1) "", args.getD (3 * i + 2) "") =
      if args.getD (3 * i + 2) "" = "" then .error (.badNumber .transferValue "")
      else .ok (groupMeaning
        (args.getD (3 * i) "", args.getD (3 * i + 1) "", args.getD (3 * i + 2) "")) :=
    fun i _ => groupTransfer_of_isText (isText_getD hex _) (isText_getD hex _) (isText_getD hex _)
  refine (mapM_eq_ite each).trans (if_congr ?_ rfl rfl)
  simp only [List.mem_range]

end Groups

/-! ### The whole call -/

theorem requiredArguments_eq (count : Nat) :
    requiredArguments count = min (3 * count + 2) (2 ^ 64 - 1) := by
  rw [requiredArguments, Nat.add_comm]
  rfl

theorem followedBy_plain (sender receiver : String) (value : Nat) (rest : List String) :
    followedBy (.plain sender receiver value) rest =
      { Metadata.plain sender receiver value with
        functionName := rest.head?.map argumentText
        functionArgs := rest.tail? } := by
  cases rest <;> rfl

variable {format : Address.Format} {m : Metadata} {args : List String}

/-- What is behind the receiver and the number, once it is enough for the groups. -/
theorem transfers_of_enough (m : Metadata) (receiver first second : String) {count : Nat}
    (hex : ∀ arg ∈ args, Hex.isText arg = true) (enough : 3 * count ≤ args.length) :
    (do
      let transfers ← (triples (args.take (3 * count))).mapM groupTransfer
      let moved ← withInnerCall (.plain m.sender receiver 0) (args.drop (3 * count))
      return { moved with transfers := transfers }) =
      if ∃ i < count, args.getD (3 * i + 2) "" = "" then
        .error (.badNumber .transferValue "")
      else .ok (movedTokens receiver m (first :: second :: args) count) := by
  have behind : ∀ arg ∈ args.drop (3 * count), Hex.isText arg = true :=
    fun arg harg => hex arg (List.mem_of_mem_drop harg)
  rw [mapM_groupTransfer hex enough, withInnerCall_of_isText behind, followedBy_plain]
  by_cases missing : ∃ i < count, args.getD (3 * i + 2) "" = ""
  · rw [if_pos missing, if_pos missing]
    rfl
  · rw [if_neg missing, if_neg missing]
    rfl

/-- The arguments are read by the table. -/
theorem multipleTransfer_eq_table (m : Metadata) (hex : ∀ arg ∈ args, Hex.isText arg = true)
    (fits : args.length < 2 ^ 64 - 1) {text : String}
    (encoded : (argumentBytes (args.getD 0 "")).length = format.size →
        format.encode (argumentBytes (args.getD 0 "")) = .ok text) :
    multipleTransfer format m args = multipleTable format.size text m args := by
  match args with
  | receiver :: number :: first :: rest =>
    have long : ¬ (receiver :: number :: first :: rest).length < 3 := by simp
    have hreceiver : Hex.isText receiver = true := hex receiver (by simp)
    have hnumber : Hex.isText number = true := hex number (by simp)
    have own : ∀ arg ∈ first :: rest, Hex.isText arg = true := fun arg harg =>
      hex arg (List.mem_cons_of_mem receiver (List.mem_cons_of_mem number harg))
    have hcount := Hexadecimal.count?_of_isDigit ((Hex.isText_iff number).1 hnumber).2
    rw [← argumentNumber] at hcount
    rw [List.getD_cons_zero] at encoded
    rw [multipleTransfer, multipleTable, if_neg long, List.getD_cons_zero, List.getD_cons_succ,
      List.getD_cons_zero, checkAddress_of_isText format hreceiver,
      hexAddress_of_isText format hreceiver]
    by_cases size : (argumentBytes receiver).length = format.size
    · rw [if_pos size, if_neg (not_not_intro size), encoded size, hcount]
      by_cases bad : number = "" ∨ 2 ^ 64 ≤ argumentNumber number
      · rw [if_pos bad, if_pos bad]
        rfl
      rw [if_neg bad, if_neg bad]
      generalize argumentNumber number = count
      have total : (receiver :: number :: first :: rest).length = (first :: rest).length + 2 := rfl
      rw [total] at fits ⊢
      dsimp only [bind, Except.bind, Except.mapError]
      by_cases few : (first :: rest).length + 2 < 3 * count + 2
      · have saturated : (first :: rest).length + 2 < requiredArguments count := by
          rw [requiredArguments_eq]
          exact lt_min few fits
        rw [if_pos few, if_pos saturated, requiredArguments_eq]
      · have required : requiredArguments count = 3 * count + 2 := by
          rw [requiredArguments_eq]
          omega
        rw [required, if_neg few, if_neg few, Nat.add_sub_cancel]
        exact transfers_of_enough m text receiver number own (by omega)
    · rw [if_neg size, if_pos size]
      rfl
  | [_, _] | [_] | [] => rfl

-- Three times the count is the greatest word, but two more do not wrap around.
example : multipleTransfer ⟨"erd", 1⟩ (.plain "a" "a" 0) ["05", "5555555555555555", ""] =
    .error (.fewArguments .multiple (2 ^ 64 - 1) 3) := by
  decide +kernel

/-- A transaction that makes the call on its sender is described by the table, with the text of the
address in the first argument as the receiver.  Lists are counted by words of 64 bits, so that none
has as many arguments as the greatest word says. -/
theorem recognized?_multiple (valid : format.IsValid) (own : m.sender = m.receiver)
    (call : m.call? = some ("MultiESDTNFTTransfer", args))
    (hex : ∀ arg ∈ args, Hex.IsRun arg.toList) (fits : args.length < 2 ^ 64 - 1) :
    ∃ receiver,
      ((argumentBytes (args.getD 0 "")).length = format.size →
        format.encode (argumentBytes (args.getD 0 "")) = .ok receiver) ∧
      recognized? .multiple format m = (multipleTable format.size receiver m args).map some := by
  have texts : ∀ arg ∈ args, Hex.isText arg = true := fun arg harg =>
    (Hex.isText_iff arg).2 (hex arg harg)
  have arguments : transferArguments? .multiple m = some args :=
    transferArguments?_eq_some_iff.2 ⟨call, Or.inr own⟩
  obtain ⟨receiver, encoded⟩ : ∃ receiver,
      (argumentBytes (args.getD 0 "")).length = format.size →
        format.encode (argumentBytes (args.getD 0 "")) = .ok receiver := by
    by_cases size : (argumentBytes (args.getD 0 "")).length = format.size
    · obtain ⟨text, htext⟩ := (Address.Format.isValid_iff format).1 valid _ size
      exact ⟨text, fun _ => htext⟩
    · exact ⟨"", fun same => absurd same size⟩
  refine ⟨receiver, encoded, ?_⟩
  rw [recognized?, arguments, ← multipleTransfer_eq_table m texts fits encoded]
  rfl

/-- A call with two transfers and a call behind them. -/
def sampleMoves : Metadata :=
  (Metadata.plain "a" "a" 7).withCall "MultiESDTNFTTransfer"
    ["05", "02", "41", "01", "0a", "42", "", "0b", "66", "00"]

theorem recognized?_sampleMoves :
    ∃ receiver, (Address.Format.mk "erd" 1).encode [5] = .ok receiver ∧
      recognized? .multiple ⟨"erd", 1⟩ sampleMoves =
        .ok (some ⟨"a", receiver, 0, some "f", some ["00"],
          [⟨10, ⟨"", "A", "A-01"⟩⟩, ⟨11, ⟨"B", "", ""⟩⟩]⟩) := by
  have valid : (Address.Format.mk "erd" 1).IsValid := by decide
  have hex : ∀ arg ∈ ["05", "02", "41", "01", "0a", "42", "", "0b", "66", "00"],
      Hex.IsRun arg.toList := by decide
  obtain ⟨receiver, encoded, described⟩ :=
    recognized?_multiple (m := sampleMoves) valid rfl rfl hex (by decide)
  refine ⟨receiver, encoded (by decide), described.trans ?_⟩
  rfl

end TxInspect.Transaction
