import Mathlib.Data.List.Forall2
import TxInspect.Proofs.Execution.Success
import TxInspect.Proofs.Json.Printing
import TxInspect.Proofs.Number.Decimal
import TxInspect.Report

/-!
# What is read back from reports

A report as JSON is an object of fields, some of which may be missing (`HasFields`).  Read back, the
description of a transaction states all that the description says (`StatesMetadata`), so different
descriptions are never shown as one text, and an outcome states its code, message and values
(`StatesOutcome`), of which nothing is replaced when the outcome was found in a transaction
(`ofText_render?`).
-/

namespace TxInspect.Report

/-! ### Objects of fields -/

/-- The fields that are there, as members. -/
def present (fields : List (String × Option Json)) : List (String × Json) :=
  fields.filterMap fun f => f.2.map fun value => (f.1, value)

/-- The document is an object without duplicate keys, and its members are the fields that are
there. -/
def HasFields (fields : List (String × Option Json)) (doc : Json) : Prop :=
  (∃ ms, doc = .object ms ∧ (ms.map Prod.fst).Nodup) ∧
    ∀ name, doc.member? name = (fields.lookup name).join

theorem present_cons_none (name : String) (fields : List (String × Option Json)) :
    present ((name, none) :: fields) = present fields := rfl

theorem present_cons_some (name : String) (value : Json) (fields : List (String × Option Json)) :
    present ((name, some value) :: fields) = (name, value) :: present fields := rfl

theorem keys_present_sublist (fields : List (String × Option Json)) :
    ((present fields).map Prod.fst).Sublist (fields.map Prod.fst) := by
  induction fields with
  | nil => exact .slnil
  | cons f fields ih =>
    obtain ⟨name, value⟩ := f
    cases value with
    | none => exact ih.cons name
    | some value => exact ih.cons_cons name

variable {fields : List (String × Option Json)}

theorem lookup_present_eq_none {name : String} (h : name ∉ fields.map Prod.fst) :
    (present fields).lookup name = none := by
  rw [List.lookup_eq_none_iff]
  intro m hm
  rw [bne_iff_ne]
  rintro rfl
  exact h ((keys_present_sublist fields).subset (List.mem_map_of_mem hm))

theorem lookup_present (h : (fields.map Prod.fst).Nodup) (name : String) :
    (present fields).lookup name = (fields.lookup name).join := by
  induction fields with
  | nil => rfl
  | cons f fields ih =>
    obtain ⟨key, value⟩ := f
    rw [List.map_cons, List.nodup_cons] at h
    by_cases same : name = key
    · subst same
      rw [List.lookup_cons_self]
      cases value with
      | none => rw [present_cons_none, lookup_present_eq_none h.1, Option.join_some]
      | some value => exact List.lookup_cons_self
    · have other : (name == key) = false := beq_false_of_ne same
      rw [List.lookup_cons, other]
      cases value with
      | none => exact ih h.2
      | some value =>
        rw [present_cons_some, List.lookup_cons, other]
        exact ih h.2

theorem hasFields_present (h : (fields.map Prod.fst).Nodup) :
    HasFields fields (.object (present fields)) :=
  ⟨⟨_, rfl, h.sublist (keys_present_sublist fields)⟩, lookup_present h⟩

theorem readable_present {depth : Nat} (h : (fields.map Prod.fst).Nodup)
    (values : ∀ f ∈ fields, ∀ v ∈ f.2, Json.Readable depth v) :
    Json.Readable (depth + 1) (.object (present fields)) := by
  refine .object (h.sublist (keys_present_sublist fields)) fun m hm => ?_
  obtain ⟨f, hf, hm⟩ := List.mem_filterMap.1 hm
  obtain ⟨v, hv, rfl⟩ := Option.map_eq_some_iff.1 hm
  exact values f hf v hv

/-! ### What documents state -/

/-- A text, unless it is empty. -/
def stated? (s : String) : Option Json :=
  if s = "" then none else some (.text s)

/-- The fields of a token. -/
def tokenFields (t : Token) : List (String × Option Json) :=
  [("token", stated? t.token), ("collection", stated? t.collection),
    ("identifier", stated? t.identifier)]

/-- The fields of a transfer. -/
def transferFields (t : TokenTransfer) (properties : Json) : List (String × Option Json) :=
  [("value", some (.text (toString t.value))), ("properties", some properties)]

/-- The fields of a description. -/
def metadataFields (m : Metadata) (transfers : List Json) : List (String × Option Json) :=
  [("sender", some (.text m.sender)), ("receiver", some (.text m.receiver)),
    ("value", some (.text (toString m.value))), ("functionName", m.functionName.map .text),
    ("functionArgs", m.functionArgs.map fun args => .array (args.map .text)),
    ("transfers", some (.array transfers))]

/-- The fields of an outcome. -/
def outcomeFields (o : Outcome) (values : List String) : List (String × Option Json) :=
  [("returnCode", some (.text o.returnCode.text)), ("returnMessage", some (.text o.returnMessage)),
    ("values", some (.array (values.map .text)))]

/-- The document states the transfer: its value and the texts of its token that are not empty. -/
def StatesTransfer (doc : Json) (t : TokenTransfer) : Prop :=
  ∃ properties, HasFields (tokenFields t.token) properties ∧
    HasFields (transferFields t properties) doc

/-- The document states the description, transfers in order. -/
def StatesMetadata (doc : Json) (m : Metadata) : Prop :=
  ∃ transfers, List.Forall₂ StatesTransfer transfers m.transfers ∧
    HasFields (metadataFields m transfers) doc

/-- The document states the outcome, values in order, and those that are texts as they are. -/
def StatesOutcome (doc : Json) (o : Outcome) : Prop :=
  ∃ values, List.Forall₂ (fun s v => Utf8.IsText v → Utf8.bytes s = v) values o.values ∧
    HasFields (outcomeFields o values) doc

theorem nodup_tokenFields (t : Token) : ((tokenFields t).map Prod.fst).Nodup := by
  simp [tokenFields]

theorem nodup_transferFields (t : TokenTransfer) (properties : Json) :
    ((transferFields t properties).map Prod.fst).Nodup := by
  simp [transferFields]

theorem nodup_metadataFields (m : Metadata) (transfers : List Json) :
    ((metadataFields m transfers).map Prod.fst).Nodup := by
  simp [metadataFields]

theorem nodup_outcomeFields (o : Outcome) (values : List String) :
    ((outcomeFields o values).map Prod.fst).Nodup := by
  simp [outcomeFields]

/-! ### What reports state -/

theorem textMember_eq (name text : String) :
    textMember name text = present [(name, stated? text)] := by
  unfold textMember stated?
  split_ifs
  · rfl
  · rfl

theorem tokenJson_eq (t : Token) : tokenJson t = .object (present (tokenFields t)) := by
  unfold tokenJson
  rw [textMember_eq, textMember_eq, textMember_eq, present, present, present,
    ← List.filterMap_append, ← List.filterMap_append]
  rfl

theorem transferJson_eq (t : TokenTransfer) :
    transferJson t = .object (present (transferFields t (tokenJson t.token))) := by
  rw [transferJson, Decimal.text_eq_toString]
  rfl

theorem metadataJson_eq (m : Metadata) :
    metadataJson m = .object (present (metadataFields m (m.transfers.map transferJson))) := by
  obtain ⟨sender, receiver, value, functionName, functionArgs, transfers⟩ := m
  rw [metadataJson, Decimal.text_eq_toString]
  cases functionName <;> cases functionArgs <;> rfl

theorem statesTransfer_transferJson (t : TokenTransfer) : StatesTransfer (transferJson t) t := by
  refine ⟨tokenJson t.token, ?_, ?_⟩
  · rw [tokenJson_eq]
    exact hasFields_present (nodup_tokenFields t.token)
  · rw [transferJson_eq]
    exact hasFields_present (nodup_transferFields t _)

theorem statesMetadata_metadataJson (m : Metadata) : StatesMetadata (metadataJson m) m := by
  refine ⟨m.transfers.map transferJson, ?_, ?_⟩
  · rw [List.forall₂_map_left_iff, List.forall₂_same]
    exact fun t _ => statesTransfer_transferJson t
  · rw [metadataJson_eq]
    exact hasFields_present (nodup_metadataFields m _)

theorem statesOutcome_outcomeJson (o : Outcome) : StatesOutcome (outcomeJson (some o)) o := by
  refine ⟨o.values.map Utf8.lossy, ?_, hasFields_present (nodup_outcomeFields o _)⟩
  rw [List.forall₂_map_left_iff, List.forall₂_same]
  exact fun v _ => Utf8.bytes_lossy

/-! ### A document states one description -/

variable {doc : Json}

theorem HasFields.lookup_eq {others : List (String × Option Json)} (h : HasFields fields doc)
    (h' : HasFields others doc) (name : String) :
    (fields.lookup name).join = (others.lookup name).join :=
  (h.2 name).symm.trans (h'.2 name)

theorem text_inj {s t : String} (h : some (Json.text s) = some (.text t)) : s = t :=
  Json.text.inj (Option.some.inj h)

theorem stated?_injective : Function.Injective stated? := by
  intro s t h
  unfold stated? at h
  split_ifs at h with hs ht
  · rw [hs, ht]
  · exact text_inj h

theorem token_eq_of_hasFields {t t' : Token} (h : HasFields (tokenFields t) doc)
    (h' : HasFields (tokenFields t') doc) : t = t' := by
  have token : t.token = t'.token := stated?_injective (h.lookup_eq h' "token")
  have collection : t.collection = t'.collection :=
    stated?_injective (h.lookup_eq h' "collection")
  have identifier : t.identifier = t'.identifier :=
    stated?_injective (h.lookup_eq h' "identifier")
  obtain ⟨_, _, _⟩ := t
  subst token collection identifier
  rfl

theorem StatesTransfer.unique {t t' : TokenTransfer} (h : StatesTransfer doc t)
    (h' : StatesTransfer doc t') : t = t' := by
  obtain ⟨properties, token, transfer⟩ := h
  obtain ⟨properties', token', transfer'⟩ := h'
  have value : t.value = t'.value :=
    Decimal.text_injective (text_inj (transfer.lookup_eq transfer' "value"))
  have same : some properties = some properties' := transfer.lookup_eq transfer' "properties"
  cases same
  have token : t.token = t'.token := token_eq_of_hasFields token token'
  obtain ⟨_, _⟩ := t
  subst value token
  rfl

theorem StatesMetadata.unique {m m' : Metadata} (h : StatesMetadata doc m)
    (h' : StatesMetadata doc m') : m = m' := by
  obtain ⟨items, transfers, h⟩ := h
  obtain ⟨items', transfers', h'⟩ := h'
  have sender : m.sender = m'.sender := text_inj (h.lookup_eq h' "sender")
  have receiver : m.receiver = m'.receiver := text_inj (h.lookup_eq h' "receiver")
  have value : m.value = m'.value := Decimal.text_injective (text_inj (h.lookup_eq h' "value"))
  have functionName : m.functionName = m'.functionName := by
    apply Option.map_injective (f := Json.text)
    · exact fun s t => Json.text.inj
    · exact h.lookup_eq h' "functionName"
  have functionArgs : m.functionArgs = m'.functionArgs := by
    apply Option.map_injective (f := fun args => Json.array (args.map .text))
    · intro s t same
      exact List.map_injective_iff.2 (fun s t => Json.text.inj) (Json.array.inj same)
    · exact h.lookup_eq h' "functionArgs"
  have same : some (Json.array items) = some (.array items') := h.lookup_eq h' "transfers"
  cases same
  have one : Relator.RightUnique StatesTransfer := fun _ _ _ h h' => h.unique h'
  have transfers : m.transfers = m'.transfers := List.right_unique_forall₂' one transfers transfers'
  obtain ⟨_, _, _, _, _, _⟩ := m
  subst sender receiver value functionName functionArgs transfers
  rfl

/-! ### Reading back -/

theorem readable_texts (depth : Nat) (texts : List String) :
    Json.Readable (depth + 1) (.array (texts.map .text)) := by
  refine .array fun v hv => ?_
  obtain ⟨s, -, rfl⟩ := List.mem_map.1 hv
  exact .text depth s

theorem readable_of_stated? (depth : Nat) {s : String} {v : Json} (h : stated? s = some v) :
    Json.Readable depth v := by
  unfold stated? at h
  split_ifs at h
  rw [← Option.some.inj h]
  exact .text depth s

theorem readable_tokenJson (depth : Nat) (t : Token) : Json.Readable (depth + 1) (tokenJson t) := by
  rw [tokenJson_eq]
  refine readable_present (nodup_tokenFields t) ?_
  simp only [tokenFields, List.forall_mem_cons]
  exact ⟨fun _ => readable_of_stated? depth, fun _ => readable_of_stated? depth,
    fun _ => readable_of_stated? depth, by simp⟩

theorem readable_transferJson (depth : Nat) (t : TokenTransfer) :
    Json.Readable (depth + 2) (transferJson t) := by
  rw [transferJson_eq]
  refine readable_present (nodup_transferFields t (tokenJson t.token)) ?_
  simp only [transferFields, List.forall_mem_cons, Option.mem_some_iff, forall_eq']
  exact ⟨.text _ _, readable_tokenJson depth t.token, by simp⟩

theorem readable_metadataJson (depth : Nat) (m : Metadata) :
    Json.Readable (depth + 4) (metadataJson m) := by
  have name : ∀ v ∈ m.functionName.map Json.text, Json.Readable (depth + 3) v := by
    intro v hv
    obtain ⟨s, -, rfl⟩ := Option.map_eq_some_iff.1 hv
    exact .text _ s
  have args : ∀ v ∈ m.functionArgs.map fun args => Json.array (args.map .text),
      Json.Readable (depth + 3) v := by
    intro v hv
    obtain ⟨texts, -, rfl⟩ := Option.map_eq_some_iff.1 hv
    exact readable_texts _ texts
  have transfers : Json.Readable (depth + 3) (.array (m.transfers.map transferJson)) := by
    refine .array fun v hv => ?_
    obtain ⟨t, -, rfl⟩ := List.mem_map.1 hv
    exact readable_transferJson depth t
  rw [metadataJson_eq]
  refine readable_present (nodup_metadataFields m _) ?_
  simp only [metadataFields, List.forall_mem_cons, Option.mem_some_iff, forall_eq']
  exact ⟨.text _ _, .text _ _, .text _ _, name, args, transfers, by simp⟩

theorem readable_outcomeJson (depth : Nat) (o : Option Outcome) :
    Json.Readable (depth + 2) (outcomeJson o) := by
  cases o with
  | none => exact .null _
  | some o =>
    refine readable_present (nodup_outcomeFields o (o.values.map Utf8.lossy)) ?_
    simp only [outcomeFields, List.forall_mem_cons, Option.mem_some_iff, forall_eq']
    exact ⟨.text _ _, .text _ _, readable_texts _ _, by simp⟩

theorem outcomeJson_eq_null_iff {o : Option Outcome} : outcomeJson o = .null ↔ o = none := by
  cases o with
  | none => exact iff_of_true rfl rfl
  | some o => exact iff_of_false Json.noConfusion (Option.some_ne_none o)

theorem ofText_metadata (m : Metadata) :
    Json.ofText (Utf8.bytes (metadataJson m).pretty) = .ok (metadataJson m) :=
  Json.ofText_pretty (readable_metadataJson 123 m)

theorem ofText_outcome (o : Option Outcome) :
    Json.ofText (Utf8.bytes (outcomeJson o).pretty) = .ok (outcomeJson o) :=
  Json.ofText_pretty (readable_outcomeJson 125 o)

/-- Shown as JSON, a description reads back as a document that states it, and no two descriptions
are shown as the same text.  An outcome reads back as `null` if there is none and else as a document
that states it; the values of every outcome that is found in a transaction are texts, so they are
all stated as they are. -/
theorem ofText_render? :
    (∀ m color, ∃ text doc, (Report.metadata m).render? ⟨true, color⟩ = some text ∧
      Json.ofText (Utf8.bytes text) = .ok doc ∧ StatesMetadata doc m) ∧
    (∀ color, Function.Injective fun m => (Report.metadata m).render? ⟨true, color⟩) ∧
    (∀ o color, ∃ text doc, (Report.outcome o).render? ⟨true, color⟩ = some text ∧
      Json.ofText (Utf8.bytes text) = .ok doc ∧ (doc = .null ↔ o = none) ∧
      ∀ outcome ∈ o, StatesOutcome doc outcome) ∧
    ∀ addresses tx outcome, (Outcome.findWith addresses tx).result = .ok (some outcome) →
      ∀ v ∈ outcome.values, Utf8.IsText v := by
  refine ⟨fun m color => ?_, fun color m m' same => ?_, fun o color => ?_,
    fun addresses tx outcome => Outcome.isText_of_findWith⟩
  · exact ⟨_, _, rfl, ofText_metadata m, statesMetadata_metadataJson m⟩
  · have text : (metadataJson m).pretty = (metadataJson m').pretty := Option.some.inj same
    have doc : metadataJson m = metadataJson m' := by
      have read := ofText_metadata m
      rw [text, ofText_metadata m'] at read
      exact (Except.ok.inj read).symm
    exact (statesMetadata_metadataJson m).unique (doc ▸ statesMetadata_metadataJson m')
  · refine ⟨_, _, rfl, ofText_outcome o, outcomeJson_eq_null_iff, ?_⟩
    rintro outcome rfl
    exact statesOutcome_outcomeJson outcome

theorem isText_answered :
    (Outcome.findWith (fun _ => none) Outcome.answered).result =
        .ok (some ⟨.ok, "ok", [[0x30, 0x33]]⟩) ∧
      ∀ v ∈ [[0x30, 0x33]], Utf8.IsText v :=
  ⟨rfl, ofText_render?.2.2.2 (fun _ => none) Outcome.answered ⟨.ok, "ok", [[0x30, 0x33]]⟩ rfl⟩

end TxInspect.Report
