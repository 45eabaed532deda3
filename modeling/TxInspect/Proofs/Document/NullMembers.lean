import TxInspect.Proofs.Document.Envelope
import TxInspect.Proofs.Execution.NullMembers

/-!
# Documents with members that are `null`

A document with an executed transaction may leave out members that are `null`, and may give the only
receiver as a list (`FillsReceivers`): the transaction that is read from it is the same, and so is
the outcome that is told (`executed_of_tidied`).
-/

namespace TxInspect.ExecutedTransaction

open Json (put)

/-- Says nothing about receivers. -/
def IsNoReceivers (v : Json) : Prop :=
  v = .null ∨ v = .array []

/-- The same transaction, with its receiver as the only one of its receivers instead of none. -/
inductive FillsReceivers : Json → Json → Prop where
  | object {members : List (String × Json)} {receiver : String} (nonempty : receiver ≠ "")
    (given : members.lookup "receiver" = some (.text receiver))
    (missing : ∀ v, members.lookup "receivers" = some v → IsNoReceivers v) :
    FillsReceivers (.object members)
      (.object (put "receivers" (.array [.text receiver]) members))
  | array (hash sender : Json) {receiver : String} {rest : List Json} (nonempty : receiver ≠ "")
    (missing : ∀ v, rest.head? = some v → IsNoReceivers v) :
    FillsReceivers (.array (hash :: sender :: .text receiver :: rest))
      (.array (hash :: sender :: .text receiver :: .array [.text receiver] :: rest.tail))

/-! ### Receivers -/

variable {v w : Json} {get : String → Option Json} {receiver : String}

theorem ofValues_receivers_of_none (missing : ∀ v, get "receivers" = some v → IsNoReceivers v) :
    (listField "receivers" .text).ofValues get = some [] := by
  simp only [listField, Json.Record.field]
  cases h : get "receivers" with
  | none => rfl
  | some v => rcases missing v h with rfl | rfl <;> rfl

/-- The members with one receiver. -/
def filled (receiver : String) (get : String → Option Json) (name : String) : Option Json :=
  if name = "receivers" then some (.array [.text receiver]) else get name

/-- The transaction with these receivers, if they can be read. -/
def ofValuesWith (get : String → Option Json) (receivers : Option (List String)) :
    Option ExecutedTransaction :=
  ExecutedTransaction.mk <$> (textField "hash").ofValues get
    <*> (textField "sender").ofValues get <*> (textField "receiver").ofValues get
    <*> receivers <*> (textField "status").ofValues get
    <*> (optionalField "receipt" Receipt.record.reader).ofValues get
    <*> (listField "smartContractResults" ContractResult.record.reader).ofValues get
    <*> (optionalField "logs" Logs.record.reader).ofValues get

theorem ofValues_record (get : String → Option Json) :
    record.ofValues get = ofValuesWith get ((listField "receivers" .text).ofValues get) :=
  rfl

theorem ofValues_record_filled (receiver : String) (get : String → Option Json) :
    record.ofValues (filled receiver get) = ofValuesWith get (some [receiver]) :=
  rfl

/-- A receiver fills in for missing receivers, whether they are filled in the JSON or not. -/
theorem map_withReceivers_filled (nonempty : receiver ≠ "")
    (given : get "receiver" = some (.text receiver))
    (missing : ∀ v, get "receivers" = some v → IsNoReceivers v) :
    (record.ofValues (filled receiver get)).map withReceivers =
      (record.ofValues get).map withReceivers := by
  have own : (textField "receiver").ofValues get = some receiver := by
    simp only [textField, Json.Record.field, given]
    rfl
  rw [ofValues_record_filled, ofValues_record, ofValues_receivers_of_none missing, ofValuesWith,
    ofValuesWith, own]
  -- One field that is refused is enough for both to be refused.
  obtain _ | hash := (textField "hash").ofValues get
  · rfl
  obtain _ | sender := (textField "sender").ofValues get
  · rfl
  obtain _ | status := (textField "status").ofValues get
  · rfl
  obtain _ | receipt := (optionalField "receipt" Receipt.record.reader).ofValues get
  · rfl
  obtain _ | results :=
    (listField "smartContractResults" ContractResult.record.reader).ofValues get
  · rfl
  obtain _ | logs := (optionalField "logs" Logs.record.reader).ofValues get
  · rfl
  change some (withReceivers ⟨hash, sender, receiver, [receiver], status, receipt, results, logs⟩) =
    some (withReceivers ⟨hash, sender, receiver, [], status, receipt, results, logs⟩)
  rw [withReceivers, withReceivers, if_neg (by simp), if_pos ⟨rfl, nonempty⟩]

/-- The fields of an array with the receiver filled in. -/
theorem lookup_zip_tail (hash sender : Json) (receiver : String) (rest : List Json)
    (name : String) :
    ((record.fields.map Prod.fst).zip
      (hash :: sender :: .text receiver :: .array [.text receiver] :: rest.tail)).lookup name =
    filled receiver (fun name => ((record.fields.map Prod.fst).zip
      (hash :: sender :: .text receiver :: rest)).lookup name) name := by
  by_cases receivers : name = "receivers"
  · subst receivers
    rfl
  · rw [filled, if_neg receivers]
    cases rest with
    | nil =>
      change List.lookup name [("hash", hash), ("sender", sender), ("receiver", .text receiver),
          ("receivers", _)] =
        List.lookup name [("hash", hash), ("sender", sender), ("receiver", .text receiver)]
      simp only [Json.lookup_cons_eq_ite, if_neg receivers]
    | cons v rest =>
      change List.lookup name (("hash", hash) :: ("sender", sender) ::
          ("receiver", .text receiver) :: ("receivers", _) :: List.zip _ rest) =
        List.lookup name (("hash", hash) :: ("sender", sender) ::
          ("receiver", .text receiver) :: ("receivers", v) :: List.zip _ rest)
      simp only [Json.lookup_cons_eq_ite, if_neg receivers]

/-- Both are refused for their length, or one is the other with the receiver filled in. -/
theorem FillsReceivers.ofValue_cases (h : FillsReceivers v w) :
    record.reader.ofValue v = none ∧ record.reader.ofValue w = none ∨
      ∃ get receiver, receiver ≠ "" ∧ get "receiver" = some (.text receiver) ∧
        (∀ u, get "receivers" = some u → IsNoReceivers u) ∧
        record.reader.ofValue v = record.ofValues get ∧
        record.reader.ofValue w = record.ofValues (filled receiver get) := by
  cases h with
  | @object members receiver nonempty given missing =>
    have lookup : (fun name => (put "receivers" (.array [.text receiver]) members).lookup name) =
        filled receiver fun name => members.lookup name :=
      funext fun name => Json.lookup_put "receivers" _ members name
    refine Or.inr ⟨fun name => members.lookup name, receiver, nonempty, given, missing, rfl, ?_⟩
    rw [← lookup]
    rfl
  | @array hash sender receiver rest nonempty missing =>
    have length : rest.tail.length + 4 ≤ 8 ↔ rest.length + 3 ≤ 8 := by
      rw [List.length_tail]
      omega
    by_cases short : rest.length + 3 ≤ 8
    · refine Or.inr ⟨_, receiver, nonempty, rfl, ?_, if_pos short, ?_⟩
      · cases rest with
        | nil => rintro u ⟨⟩
        | cons v rest => exact missing
      · refine (if_pos (length.2 short)).trans (congrArg record.ofValues ?_)
        exact funext (lookup_zip_tail hash sender receiver rest)
    · exact Or.inl ⟨if_neg short, if_neg (mt length.1 short)⟩

theorem FillsReceivers.map_withReceivers (h : FillsReceivers v w) :
    (record.reader.ofValue w).map withReceivers = (record.reader.ofValue v).map withReceivers := by
  obtain ⟨refused, refused'⟩ | ⟨get, receiver, nonempty, given, missing, read, read'⟩ :=
    h.ofValue_cases
  · rw [refused, refused']
  · rw [read, read', map_withReceivers_filled nonempty given missing]

/-! ### Documents -/

theorem map_orMismatch {α β : Type} (x : Option α) (f : α → β) :
    (Json.orMismatch x).map f = Json.orMismatch (x.map f) := by
  cases x <;> rfl

theorem member?_eq_none_of_tidied {part : Part} {name : String} (proper : v.IsProper)
    (h : Tidied part v w) (absent : v.member? name = none) : w.member? name = none := by
  cases h with
  | same => exact absent
  | topic => rfl
  | array => rfl
  | @object _ members members' tidied =>
    cases proper with
    | object keys proper =>
      have kept := kept_lookup tidied keys proper name
      change members.lookup name = none at absent
      change members'.lookup name = none
      generalize members'.lookup name = left at kept
      rw [absent] at kept
      cases kept
      rfl

/-- A tidied document is no answer of a gateway if it was none before. -/
theorem transaction?_of_tidied (proper : v.IsProper) (h : Tidied .transaction v w)
    (bare : Document.transaction? v = none) : Document.transaction? w = none := by
  cases h with
  | same => exact bare
  | array => rfl
  | @object _ members members' tidied =>
    cases proper with
    | object keys proper =>
      have kept := kept_lookup tidied keys proper "data"
      change (members.lookup "data").bind _ = none at bare
      change (members'.lookup "data").bind _ = none
      generalize members.lookup "data" = data at kept bare
      generalize members'.lookup "data" = data' at kept
      cases kept with
      | absent => rfl
      | kept proper h => exact member?_eq_none_of_tidied proper h bare
      | dropped => rfl

theorem FillsReceivers.transaction?_eq (h : FillsReceivers v w) :
    Document.transaction? w = Document.transaction? v := by
  cases h with
  | object =>
    change (List.lookup "data" (put _ _ _)).bind _ = (List.lookup "data" _).bind _
    rw [Json.lookup_put, if_neg (by decide)]
  | array => rfl

/-- A member that is `null` may as well be missing, but for the nonce of a result; a topic that is
`null` may as well be empty; and a receiver may as well be given as the only one of the receivers if
there are none.  None of this changes the transaction that is read, or that it is refused, nor the
outcome that is told. -/
theorem executed_of_tidied {v tidy : Json} (bare : Document.transaction? v = none)
    (tidied : Tidied .transaction v tidy) :
    (v.IsProper → record.reader.ofValue tidy = record.reader.ofValue v ∧
      ∀ filled, FillsReceivers tidy filled → (record.reader.ofValue filled).map withReceivers =
        (record.reader.ofValue v).map withReceivers) ∧
    ∀ document other : String, Json.ofText (Utf8.bytes document) = .ok v →
      (Json.ofText (Utf8.bytes other) = .ok tidy →
        Document.executed other = Document.executed document) ∧
      ∀ w, w = tidy ∨ FillsReceivers tidy w → Json.ofText (Utf8.bytes other) = .ok w →
        Document.executedTransaction other = Document.executedTransaction document ∧
        ∀ i : Command.Invocation, i.tellOutcome other = i.tellOutcome document := by
  have same : v.IsProper → record.reader.ofValue tidy = record.reader.ofValue v :=
    fun proper => ignores_transaction v tidy proper tidied
  have sameFilled : v.IsProper → ∀ filled, FillsReceivers tidy filled →
      (record.reader.ofValue filled).map withReceivers =
        (record.reader.ofValue v).map withReceivers := by
    intro proper filled fills
    rw [fills.map_withReceivers, same proper]
  refine ⟨fun proper => ⟨same proper, sameFilled proper⟩, fun document other hdocument => ?_⟩
  have proper := Json.isProper_of_ofText hdocument
  have bareTidy := transaction?_of_tidied proper tidied bare
  constructor
  · intro hother
    rw [Document.executed, Document.executed, Document.read_of_bare _ hdocument bare,
      Document.read_of_bare _ hother bareTidy, same proper]
  · intro w hw hother
    obtain ⟨bareW, sameW⟩ : Document.transaction? w = none ∧
        (record.reader.ofValue w).map withReceivers =
          (record.reader.ofValue v).map withReceivers := by
      rcases hw with rfl | fills
      · exact ⟨bareTidy, by rw [same proper]⟩
      · exact ⟨fills.transaction?_eq.trans bareTidy, sameFilled proper w fills⟩
    have read : Document.executedTransaction other = Document.executedTransaction document := by
      rw [Document.executedTransaction, Document.executedTransaction, Document.executed,
        Document.executed, Document.read_of_bare _ hdocument bare,
        Document.read_of_bare _ hother bareW, map_orMismatch, map_orMismatch, sameW]
    exact ⟨read, Document.tellOutcome_congr read⟩

/-- The log of an event with one topic. -/
def sampleLogs (topic : Json) : Json :=
  .object [("events", .array [.object [("topics", .array [topic])]])]

/-- A transaction with a receiver, some more members, and such a log. -/
def sampleExecuted (members : List (String × Json)) (topic : Json) : Json :=
  .object (("receiver", .text "r") :: members ++ [("logs", sampleLogs topic)])

theorem readable_sampleExecuted {members : List (String × Json)} {topic : Json}
    (keys : (("receiver" :: members.map Prod.fst) ++ ["logs"]).Nodup)
    (hmembers : ∀ m ∈ members, Json.Readable 126 m.2) (htopic : Json.Readable 122 topic) :
    Json.Readable Json.maxDepth (sampleExecuted members topic) := by
  have event : Json.Readable 124 (.object [("topics", .array [topic])]) :=
    .object (List.pairwise_singleton _ "topics")
      (List.forall_mem_singleton.2 (.array (List.forall_mem_singleton.2 htopic)))
  have logs : Json.Readable 126 (sampleLogs topic) :=
    .object (List.pairwise_singleton _ "events")
      (List.forall_mem_singleton.2 (.array (List.forall_mem_singleton.2 event)))
  refine .object (by simpa using keys) (List.forall_mem_cons.2 ⟨.text _ _, fun m hm => ?_⟩)
  rcases List.mem_append.1 hm with hm | hm
  · exact hmembers m hm
  · rw [List.mem_singleton.1 hm]
    exact logs

/-- A member and a topic that are `null`, and no receivers; neither of them, and the receiver. -/
theorem executed_of_tidied_sample :
    Document.executedTransaction
        (sampleExecuted [("receivers", .array [.text "r"])] (.text "")).pretty =
      Document.executedTransaction
        (sampleExecuted [("nonce", .null), ("receivers", .null)] .null).pretty := by
  have topics : Tidied .topics (.array [.null]) (.array [.text ""]) :=
    .array (.cons .topic (.nil _ _))
  have event : Tidied .event (.object [("topics", .array [.null])])
      (.object [("topics", .array [.text ""])]) := .object (.keep topics (.nil _))
  have logs : Tidied .logs (sampleLogs .null) (sampleLogs (.text "")) :=
    .object (.keep (.array (.cons event (.nil _ _))) (.nil _))
  have tidied : Tidied .transaction
      (sampleExecuted [("nonce", .null), ("receivers", .null)] .null)
      (sampleExecuted [("receivers", .null)] (.text "")) :=
    .object (.keep (.same _ _) (.drop (by decide) (.keep (.same _ _) (.keep logs (.nil _)))))
  have fills : FillsReceivers (sampleExecuted [("receivers", .null)] (.text ""))
      (sampleExecuted [("receivers", .array [.text "r"])] (.text "")) := by
    refine .object (by decide) rfl ?_
    rintro _ ⟨⟩
    exact Or.inl rfl
  have before : Json.Readable Json.maxDepth
      (sampleExecuted [("nonce", .null), ("receivers", .null)] .null) :=
    readable_sampleExecuted (by decide)
      (List.forall_mem_cons.2 ⟨.null _, List.forall_mem_singleton.2 (.null _)⟩) (.null _)
  have after : Json.Readable Json.maxDepth
      (sampleExecuted [("receivers", .array [.text "r"])] (.text "")) :=
    readable_sampleExecuted (by decide)
      (List.forall_mem_singleton.2 (.array (List.forall_mem_singleton.2 (.text _ "r"))))
      (.text _ "")
  obtain ⟨-, documents⟩ := executed_of_tidied rfl tidied
  exact ((documents _ _ (Json.ofText_pretty before)).2 _ (Or.inr fills)
    (Json.ofText_pretty after)).1

end TxInspect.ExecutedTransaction
