import Mathlib.Data.List.Chain
import Mathlib.Tactic.Common
import TxInspect.Proofs.Number.Decimal
import TxInspect.Proofs.Transaction.Recognizers

/-!
# What is noted about a description

The account of a description lists the envelopes that were opened on the way to the innermost
transaction (`Passage`), numbered from outside to inside, then at most one note about the data of
this transaction (`IsOpaque`), and, if there is a description, one closing note on the transfer that
was found or not (`Closing`).  So the account tells how far the description came and how it was
made (`describe_tells`).
-/

namespace TxInspect.Transaction

open Results

variable {format : Address.Format} {tx inner : Transaction} {own m : Metadata} {opened left : Nat}

/-! ### The way to the innermost transaction -/

/-- The transactions in the envelopes that are opened, from outside to inside. -/
structure Passage (format : Address.Format) (tx : Transaction) where
  inners : List Transaction
  isChain : List.IsChain (Opens format) (tx :: inners)

namespace Passage

/-- The transaction where the way ends. -/
def last (p : Passage format tx) : Transaction :=
  (tx :: p.inners).getLast (List.cons_ne_nil tx p.inners)

/-- No envelope is opened. -/
def here (format : Address.Format) (tx : Transaction) : Passage format tx :=
  ⟨[], .singleton tx⟩

/-- One more envelope is opened before. -/
def cons (opens : Opens format tx inner) (p : Passage format inner) : Passage format tx :=
  ⟨inner :: p.inners, .cons_cons opens p.isChain⟩

@[simp] theorem last_here : (here format tx).last = tx := rfl

@[simp] theorem last_cons (opens : Opens format tx inner) (p : Passage format inner) :
    (p.cons opens).last = p.last :=
  List.getLast_cons (List.cons_ne_nil inner p.inners)

end Passage

/-- What is noted about envelopes that are opened one after the other, when `opened` others have
been opened before. -/
def openings (opened : Nat) (inners : List Transaction) : List Event :=
  inners.mapIdx fun i inner => .unwrapped (opened + i + 1) inner.sender inner.receiver

theorem openings_cons (opened : Nat) (inner : Transaction) (inners : List Transaction) :
    openings opened (inner :: inners) =
      .unwrapped (opened + 1) inner.sender inner.receiver :: openings (opened + 1) inners := by
  rw [openings, openings, List.mapIdx_cons]
  congr 2
  funext i inner
  rw [Nat.add_right_comm opened 1 i, Nat.add_assoc opened i 1]

/-! ### The transaction itself -/

/-- The data field can be read, but is no call: not all arguments are hexadecimal. -/
def IsOpaque (tx : Transaction) : Prop :=
  ∃ value bs, readValue tx.value = .ok value ∧ tx.data ≠ "" ∧ Base64.ofText tx.data = .ok bs ∧
    ¬ ∀ arg ∈ (splitCall (Utf8.decodeLossy bs)).2, Hex.isText arg = true

/-- What is done with the data of a transaction whose amount can be read. -/
theorem describeOuter_eq {value : Nat} (hvalue : readValue tx.value = .ok value)
    (data : tx.data ≠ "") {bs : List UInt8} (hbs : Base64.ofText tx.data = .ok bs) :
    describeOuter tx =
      if (splitCall (Utf8.decodeLossy bs)).2.all Hex.isText then
        .ofResult (.ok ((Metadata.plain tx.sender tx.receiver value).withCall
          (splitCall (Utf8.decodeLossy bs)).1 (splitCall (Utf8.decodeLossy bs)).2))
      else ⟨[.noCall], .ok (.plain tx.sender tx.receiver value)⟩ := by
  simp only [describeOuter, hvalue, hbs, data, Log.Account.ofResult_ok_bind, Except.mapError,
    if_false]
  rfl

/-- Nothing is noted about the transaction itself, unless its data field is no call. -/
theorem describeOuter_cases (tx : Transaction) :
    ¬ IsOpaque tx ∧ (describeOuter tx).events = [] ∨
      IsOpaque tx ∧ (describeOuter tx).events = [.noCall] ∧
        ∃ value, (describeOuter tx).result = .ok (.plain tx.sender tx.receiver value) := by
  cases hvalue : readValue tx.value with
  | error e => exact Or.inl ⟨by simp [IsOpaque, hvalue], by simp [describeOuter, hvalue]⟩
  | ok value =>
    by_cases empty : tx.data = ""
    · exact Or.inl ⟨by simp [IsOpaque, empty], by simp [describeOuter, hvalue, empty]⟩
    cases hdata : Base64.ofText tx.data with
    | error e =>
      refine Or.inl ⟨by simp [IsOpaque, hdata], ?_⟩
      simp [describeOuter, hvalue, empty, hdata, Except.mapError]
    | ok bs =>
      rw [describeOuter_eq hvalue empty hdata]
      split_ifs with hex
      · refine Or.inl ⟨?_, rfl⟩
        rintro ⟨_, _, -, -, h, mixed⟩
        cases hdata.symm.trans h
        exact mixed (List.all_eq_true.1 hex)
      · refine Or.inr ⟨⟨value, bs, hvalue, empty, hdata, ?_⟩, rfl, value, rfl⟩
        exact fun all => hex (List.all_eq_true.2 all)

theorem events_describeOuter_of_opens (opens : Opens format tx inner) :
    (describeOuter tx).events = [] := by
  obtain ⟨m, houter, hin⟩ := opens_iff.1 opens
  obtain ⟨-, none⟩ | ⟨-, -, value, plain⟩ := describeOuter_cases tx
  · exact none
  -- Without a call there is no envelope.
  · cases houter.symm.trans plain
    cases hin

/-! ### Envelopes -/

theorem events_describeInner_of_isBare (bare : IsBare format tx) (opened left : Nat) :
    (describeInner format opened left tx).events = (describeOuter tx).events := by
  cases houter : (describeOuter tx).result with
  | error e => cases left <;> rw [describeInner, Log.Account.events_bind_of_error houter]
  | ok m =>
    -- Whatever may still be opened, nothing is.
    cases hin : unwrap? format m with
    | error e =>
      cases left <;> rw [describeInner, Log.Account.events_bind_of_ok houter] <;> simp [hin]
    | ok found =>
      cases found with
      | none =>
        cases left <;> rw [describeInner, Log.Account.events_bind_of_ok houter] <;> simp [hin]
      | some inner => exact absurd (opens_iff.2 ⟨m, houter, hin⟩) (bare inner)

theorem events_describeInner_zero (opens : Opens format tx inner) (opened : Nat) :
    (describeInner format opened 0 tx).events = [] := by
  obtain ⟨m, houter, hin⟩ := opens_iff.1 opens
  rw [describeInner, Log.Account.events_bind_of_ok houter, events_describeOuter_of_opens opens]
  simp [hin]

theorem events_describeInner_succ (opens : Opens format tx inner) (opened left : Nat) :
    (describeInner format opened (left + 1) tx).events =
      .unwrapped (opened + 1) inner.sender inner.receiver ::
        (describeInner format (opened + 1) left inner).events := by
  obtain ⟨m, houter, hin⟩ := opens_iff.1 opens
  rw [describeInner, Log.Account.events_bind_of_ok houter, events_describeOuter_of_opens opens]
  simp [hin]

/-- Envelopes are opened until none is left, or until one more is not allowed. -/
theorem exists_passage (format : Address.Format) (opened left : Nat) (tx : Transaction) :
    ∃ p : Passage format tx, p.inners.length ≤ left ∧
      (describeInner format opened left tx).events =
        openings opened p.inners ++ (describeOuter p.last).events ∧
      (IsBare format p.last ∧
          (describeInner format opened left tx).result = bareResult format p.last ∨
        p.inners.length = left ∧
          (describeInner format opened left tx).result = .error (.tooDeep (opened + left))) := by
  -- Each envelope counts one up and leaves one less, as in the recursion.
  induction left generalizing opened tx with
  | zero =>
    refine ⟨.here format tx, le_rfl, ?_⟩
    by_cases bare : IsBare format tx
    · exact ⟨events_describeInner_of_isBare bare opened 0,
        Or.inl ⟨bare, result_describeInner_of_isBare bare opened 0⟩⟩
    · obtain ⟨inner, opens⟩ : ∃ inner, Opens format tx inner := by simpa [IsBare] using bare
      refine ⟨?_, Or.inr ⟨rfl, result_describeInner_zero opens opened⟩⟩
      rw [events_describeInner_zero opens, Passage.last_here, events_describeOuter_of_opens opens]
      rfl
  | succ left ih =>
    by_cases bare : IsBare format tx
    · exact ⟨.here format tx, Nat.zero_le _, events_describeInner_of_isBare bare opened _,
        Or.inl ⟨bare, result_describeInner_of_isBare bare opened _⟩⟩
    · obtain ⟨inner, opens⟩ : ∃ inner, Opens format tx inner := by simpa [IsBare] using bare
      obtain ⟨p, length, events, result⟩ := ih (opened + 1) inner
      refine ⟨p.cons opens, Nat.succ_le_succ length, ?_, ?_⟩
      · rw [events_describeInner_succ opens, events, Passage.last_cons]
        exact congrArg (· ++ _) (openings_cons opened inner p.inners).symm
      · rw [result_describeInner_succ opens, Passage.last_cons]
        obtain innermost | ⟨all, deep⟩ := result
        · exact Or.inl innermost
        · refine Or.inr ⟨congrArg (· + 1) all, ?_⟩
          rw [deep, Nat.add_right_comm, Nat.add_assoc]

/-! ### Transfers -/

/-- What is noted at the end, when the innermost transaction has been described by itself. -/
def closings (format : Address.Format) (own : Metadata) : List Event :=
  match findTransfer format own TransferKind.all with
  | .ok (some (kind, moved)) => [.transfer kind moved.transfers.length]
  | .ok none => [.noTransfer own.functionName]
  | .error _ => []

/-- The last note and the result come from looking for transfers, if it comes to that. -/
theorem describeWith_cases (format : Address.Format) (max : Nat) (tx : Transaction) :
    (∃ own, (describeInner format 0 max tx).result = .ok own ∧
        (describeWith format max tx).events =
          (describeInner format 0 max tx).events ++ closings format own ∧
        (describeWith format max tx).result = withTransfer format own) ∨
      ∃ e, (describeWith format max tx).events = (describeInner format 0 max tx).events ∧
        (describeWith format max tx).result = .error e := by
  rw [result_describeWith, describeWith]
  cases h : (describeInner format 0 max tx).result with
  | error e => exact Or.inr ⟨e, Log.Account.events_bind_of_error h _, rfl⟩
  | ok own =>
    refine Or.inl ⟨own, rfl, ?_, rfl⟩
    rw [Log.Account.events_bind_of_ok h, closings]
    cases findTransfer format own TransferKind.all with
    | error e => rfl
    | ok found => cases found <;> rfl

/-- All kinds that were looked for in vain decline. -/
theorem recognized?_of_findTransfer {kinds : List TransferKind}
    (h : findTransfer format m kinds = .ok none) {kind : TransferKind} (mem : kind ∈ kinds) :
    recognized? kind format m = .ok none := by
  induction kinds with
  | nil => cases mem
  | cons first kinds ih =>
    rw [findTransfer] at h
    obtain ⟨found, hfound, h⟩ := bind_eq_ok_iff.1 h
    cases found with
    | some moved => cases h
    | none =>
      rcases List.mem_cons.1 mem with rfl | mem
      · exact hfound
      · exact ih h mem

theorem TransferKind.mem_all (kind : TransferKind) : kind ∈ TransferKind.all := by
  cases kind <;> decide

/-- The entry that closes a description, when the innermost transaction by itself is `own`. -/
inductive Closing (format : Address.Format) (own : Metadata) : Metadata → Log.Entry → Prop where
  /-- One recognizer has found a transfer, and all others decline. -/
  | transfer {m : Metadata} {kind : TransferKind}
    (recognized : recognized? kind format own = .ok (some m))
    (only : ∀ other, other ≠ kind → recognized? other format own = .ok none) :
    Closing format own m ⟨.debug, "txlens::decode::data_field", "decoded token transfer",
      [("recognizer", .text kind.function), ("transfers", .shown (toString m.transfers.length))]⟩
  /-- All recognizers decline. -/
  | none (declined : ∀ kind, recognized? kind format own = .ok none) (function : String) :
    Closing format own own ⟨.trace, "txlens::decode::data_field", "no transfer recognized",
      [("function", .shown function)]⟩

theorem closings_of_ok (h : withTransfer format own = .ok m) :
    ∃ entry, Closing format own m entry ∧ (closings format own).map Event.entry = [entry] := by
  obtain ⟨found, hfound, h⟩ := map_eq_ok_iff.1 h
  rw [closings, hfound]
  cases found with
  | none =>
    cases h
    exact ⟨_, .none (fun kind => recognized?_of_findTransfer hfound kind.mem_all) _, rfl⟩
  | some found =>
    obtain ⟨kind, moved⟩ := found
    cases h
    obtain ⟨args, arguments, transferred⟩ := findTransfer_eq_some hfound
    have recognized : recognized? kind format own = .ok (some moved) := by
      simp only [recognized?, arguments, transferred]
      rfl
    refine ⟨_, .transfer recognized fun other ne => ?_, ?_⟩
    · exact recognized?_eq_ok_none_iff.2 (transferArguments?_of_ne arguments ne)
    · rw [← Decimal.text_eq_toString]
      rfl

theorem closings_of_error {e : Fault} (h : withTransfer format own = .error e) :
    closings format own = [] := by
  rw [withTransfer] at h
  rw [closings]
  cases hfound : findTransfer format own TransferKind.all with
  | error e => rfl
  | ok found =>
    rw [hfound] at h
    cases h

/-- A description is closed by one entry, and a failure by none. -/
theorem exists_closing (format : Address.Format) (max : Nat) (tx : Transaction) :
    ∃ closing, (describeWith format max tx).events.map Event.entry =
        (describeInner format 0 max tx).events.map Event.entry ++ closing ∧
      (∀ e, (describeWith format max tx).result = .error e → closing = []) ∧
      ∀ m, (describeWith format max tx).result = .ok m → ∃ own entry,
        (describeInner format 0 max tx).result = .ok own ∧ Closing format own m entry ∧
          closing = [entry] := by
  obtain ⟨own, hown, events, result⟩ | ⟨e, events, result⟩ := describeWith_cases format max tx
  · rw [events, result, hown]
    refine ⟨_, List.map_append, ?_, ?_⟩
    · intro e failed
      rw [closings_of_error failed]
      rfl
    · intro m described
      obtain ⟨entry, closes, only⟩ := closings_of_ok described
      exact ⟨own, entry, rfl, closes, only⟩
  · rw [events, result]
    exact ⟨[], (List.append_nil _).symm, fun _ _ => rfl, by simp⟩

/-! ### All entries -/

/-- The entries about envelopes that are opened one after the other. -/
def openingEntries (inners : List Transaction) : List Log.Entry :=
  inners.mapIdx fun i inner =>
    ⟨.debug, "txlens::decode::data_field", "unwrapped relayed transaction",
      [("depth", .shown (toString (i + 1))), ("sender", .shown inner.sender),
        ("receiver", .shown inner.receiver)]⟩

/-- The entry about a data field that is no call. -/
def opaqueEntry : Log.Entry :=
  ⟨.trace, "txlens::decode::data_field",
    "data field arguments are not hex, treating as opaque data", []⟩

theorem map_entry_openings (inners : List Transaction) :
    (openings 0 inners).map Event.entry = openingEntries inners := by
  rw [openings, openingEntries, List.mapIdx_eq_zipIdx_map, List.mapIdx_eq_zipIdx_map,
    List.map_map]
  refine List.map_congr_left fun (inner, i) _ => ?_
  show Event.entry (.unwrapped (0 + i + 1) inner.sender inner.receiver) = _
  rw [Nat.zero_add, Event.entry, Decimal.text_eq_toString]
  rfl

/-- The entries of an account tell what was done.  First come the envelopes that were opened, one
after the other, numbered from 1, each with who sends to whom in it; they are all that can be
opened, unless one more is not allowed.  An entry about opaque data follows if the transaction where
this ends is opaque.  If there is a description, then the last entry names the one recognizer that
found a transfer in this transaction, with the number of transfers, or it says that none did, and
the description is that of the transaction by itself.  No entry closes the account of a failure, and
a failure for depth comes when as many envelopes were opened as are allowed. -/
theorem describe_tells (settings : Settings) (tx : Transaction) :
    ∃ (p : Passage settings.format tx) (note closing : List Log.Entry),
      (describe settings tx).events.map Event.entry =
        openingEntries p.inners ++ note ++ closing ∧
      p.inners.length ≤ settings.maxRelayDepth ∧
      (IsBare settings.format p.last ∨ p.inners.length = settings.maxRelayDepth ∧
        (describe settings tx).result = .error (.tooDeep settings.maxRelayDepth)) ∧
      (∀ d, (describe settings tx).result = .error (.tooDeep d) →
        p.inners.length = settings.maxRelayDepth) ∧
      (IsOpaque p.last ∧ note = [opaqueEntry] ∨ ¬ IsOpaque p.last ∧ note = []) ∧
      (∀ e, (describe settings tx).result = .error e → closing = []) ∧
      ∀ m, (describe settings tx).result = .ok m → ∃ own entry,
        (describeOuter p.last).result = .ok own ∧ Closing settings.format own m entry ∧
          closing = [entry] := by
  obtain ⟨p, length, inner, way⟩ :=
    exists_passage settings.format 0 settings.maxRelayDepth tx
  have note : IsOpaque p.last ∧ (describeOuter p.last).events.map Event.entry = [opaqueEntry] ∨
      ¬ IsOpaque p.last ∧ (describeOuter p.last).events.map Event.entry = [] := by
    obtain ⟨clear, none⟩ | ⟨mixed, one, -⟩ := describeOuter_cases p.last
    · exact Or.inr ⟨clear, by rw [none]; rfl⟩
    · exact Or.inl ⟨mixed, by rw [one]; rfl⟩
  obtain ⟨closing, events, failed, described⟩ :=
    exists_closing settings.format settings.maxRelayDepth tx
  have whole : (describe settings tx).result =
      (describeInner settings.format 0 settings.maxRelayDepth tx).result >>=
        withTransfer settings.format := result_describeWith settings.format _ tx
  rw [Nat.zero_add] at way
  refine ⟨p, _, closing, ?_, length, ?_, ?_, note, failed, ?_⟩
  · rw [describe, events, inner, List.map_append, map_entry_openings]
  · obtain ⟨bare, -⟩ | ⟨all, deep⟩ := way
    · exact Or.inl bare
    · exact Or.inr ⟨all, by rw [whole, deep]; rfl⟩
  · intro d h
    obtain ⟨bare, result⟩ | ⟨all, -⟩ := way
    · rw [whole, result, ← result_describeWith_of_isBare bare 0] at h
      exact absurd rfl (failsOnly_describeWith_of_isBare bare 0 _ h d)
    · exact all
  · intro m h
    obtain ⟨own, entry, hown, closes, only⟩ := described m h
    obtain ⟨-, result⟩ | ⟨-, deep⟩ := way
    · obtain ⟨own', houter, rest⟩ := bind_eq_ok_iff.1 (result.symm.trans hown)
      obtain ⟨-, -, rest⟩ := bind_eq_ok_iff.1 rest
      cases rest
      exact ⟨own, entry, houter, closes, only⟩
    · cases deep.symm.trans hown

end TxInspect.Transaction
