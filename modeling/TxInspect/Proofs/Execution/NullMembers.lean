import Mathlib.Tactic.Common
import TxInspect.Execution.Basic
import TxInspect.Proofs.Json.Proper

/-!
# Members that are `null`

In the JSON of an executed transaction, a member that is `null` may as well be missing, the nonce of
a result excepted, and a topic that is `null` may as well be empty (`Tidied`).  Every reader of a
part of it ignores the difference (`Ignores`): those of values without parts do, so do records of
fields that read `null` as they do nothing (`ignoresMembers_field`), and all that is put together
out of them.
-/

namespace TxInspect.ExecutedTransaction

open Json (Reader Record)

/-! ### Parts -/

/-- The parts of the JSON of an executed transaction in which `null` has a meaning of its own, those
around them, and all others. -/
inductive Part where
  | transaction
  | results
  | result
  | logs
  | events
  | event
  | topics
  | topic
  | other
deriving DecidableEq, Repr

namespace Part

/-- The names of the parts of a record in the order that they have in an array. -/
def fields : Part → List String
  | .transaction =>
    ["hash", "sender", "receiver", "receivers", "status", "receipt", "smartContractResults", "logs"]
  | .result => ["hash", "nonce", "data", "returnMessage", "logs"]
  | .logs => ["address", "events"]
  | .event => ["identifier", "address", "topics", "data"]
  | _ => []

/-- The part that a member of an object is. -/
def member : Part → String → Part
  | .transaction, "smartContractResults" => .results
  | .transaction, "logs" => .logs
  | .result, "logs" => .logs
  | .logs, "events" => .events
  | .event, "topics" => .topics
  | _, _ => .other

/-- The part that an item of an array is. -/
def item : Part → Nat → Part
  | .results, _ => .result
  | .events, _ => .event
  | .topics, _ => .topic
  | part, i => (part.fields[i]?).elim .other part.member

/-- The member is the nonce of a result, which may be missing, but is no number if it is `null`. -/
def IsNonce (part : Part) (name : String) : Prop :=
  part = .result ∧ name = "nonce"

instance (part : Part) (name : String) : Decidable (part.IsNonce name) :=
  inferInstanceAs (Decidable (_ ∧ _))

end Part

mutual

/-- The same JSON without some of the members that are `null`, and with some of the topics that are
`null` as empty texts. -/
inductive Tidied : Part → Json → Json → Prop where
  | same (part : Part) (v : Json) : Tidied part v v
  | topic : Tidied .topic .null (.text "")
  | array {part : Part} {items items' : List Json} (h : TidiedItems part 0 items items') :
    Tidied part (.array items) (.array items')
  | object {part : Part} {members members' : List (String × Json)}
    (h : TidiedMembers part members members') : Tidied part (.object members) (.object members')

/-- The same items, tidied, the first of them with this index. -/
inductive TidiedItems : Part → Nat → List Json → List Json → Prop where
  | nil (part : Part) (i : Nat) : TidiedItems part i [] []
  | cons {part : Part} {i : Nat} {v v' : Json} {items items' : List Json}
    (first : Tidied (part.item i) v v') (rest : TidiedItems part (i + 1) items items') :
    TidiedItems part i (v :: items) (v' :: items')

/-- The same members, tidied, without some of those that are `null`. -/
inductive TidiedMembers : Part → List (String × Json) → List (String × Json) → Prop where
  | nil (part : Part) : TidiedMembers part [] []
  | keep {part : Part} {name : String} {v v' : Json} {members members' : List (String × Json)}
    (value : Tidied (part.member name) v v') (rest : TidiedMembers part members members') :
    TidiedMembers part ((name, v) :: members) ((name, v') :: members')
  | drop {part : Part} {name : String} {members members' : List (String × Json)}
    (notNonce : ¬ part.IsNonce name) (rest : TidiedMembers part members members') :
    TidiedMembers part ((name, .null) :: members) members'

end

/-- A member of an object before and after. -/
inductive Kept (part : Part) (name : String) : Option Json → Option Json → Prop where
  | absent : Kept part name none none
  | kept {v v' : Json} (proper : v.IsProper) (h : Tidied (part.member name) v v') :
    Kept part name (some v) (some v')
  | dropped (notNonce : ¬ part.IsNonce name) : Kept part name (some .null) none

variable {α β : Type} {part : Part} {name : String}

theorem lookup_eq_none_of_tidied {ms ms' : List (String × Json)} (h : TidiedMembers part ms ms')
    (absent : name ∉ ms.map Prod.fst) : ms'.lookup name = none := by
  induction ms generalizing ms' with
  | nil =>
    cases h
    rfl
  | cons m ms ih =>
    rw [List.map_cons, List.mem_cons, not_or] at absent
    cases h with
    | keep value rest =>
      rw [Json.lookup_cons_eq_ite, if_neg absent.1]
      exact ih rest absent.2
    | drop notNonce rest => exact ih rest absent.2

/-- Keys are unique, so a member that has been dropped does not uncover another one. -/
theorem kept_lookup {ms ms' : List (String × Json)} (h : TidiedMembers part ms ms')
    (keys : (ms.map Prod.fst).Nodup) (proper : ∀ m ∈ ms, m.2.IsProper) (name : String) :
    Kept part name (ms.lookup name) (ms'.lookup name) := by
  induction ms generalizing ms' with
  | nil =>
    cases h
    exact .absent
  | cons m ms ih =>
    rw [List.map_cons, List.nodup_cons] at keys
    rw [List.forall_mem_cons] at proper
    cases h with
    | keep value rest =>
      rw [Json.lookup_cons_eq_ite, Json.lookup_cons_eq_ite]
      split_ifs with own
      · subst own
        exact .kept proper.1 value
      · exact ih rest keys.2 proper.2
    | drop notNonce rest =>
      rw [Json.lookup_cons_eq_ite]
      split_ifs with own
      · subst own
        rw [lookup_eq_none_of_tidied rest keys.1]
        exact .dropped notNonce
      · exact ih rest keys.2 proper.2

theorem length_eq_of_tidied {i : Nat} {items items' : List Json}
    (h : TidiedItems part i items items') : items'.length = items.length := by
  induction items generalizing i items' with
  | nil =>
    cases h
    rfl
  | cons v items ih =>
    cases h with
    | cons first rest => exact congrArg Nat.succ (ih rest)

/-- The items of an array are kept under the names of the fields in their places. -/
theorem kept_zip {i : Nat} {items items' : List Json} (h : TidiedItems part i items items')
    (proper : ∀ v ∈ items, v.IsProper) {names : List String}
    (hnames : ∀ j own, names[j]? = some own → part.item (i + j) = part.member own)
    (name : String) :
    Kept part name ((names.zip items).lookup name) ((names.zip items').lookup name) := by
  induction items generalizing i items' names with
  | nil =>
    cases h
    rw [List.zip_nil_right]
    exact .absent
  | cons v items ih =>
    rw [List.forall_mem_cons] at proper
    cases h with
    | cons first rest =>
      cases names with
      | nil => exact .absent
      | cons own names =>
        rw [List.zip_cons_cons, List.zip_cons_cons, Json.lookup_cons_eq_ite,
          Json.lookup_cons_eq_ite]
        split_ifs with same
        · have itself : part.item i = part.member own := hnames 0 own rfl
          rw [itself, ← same] at first
          exact .kept proper.1 first
        · refine ih rest proper.2 fun j own' hown => ?_
          rw [Nat.add_assoc, Nat.add_comm 1]
          exact hnames (j + 1) own' hown

/-! ### Readers -/

/-- The reader takes the same from a part of the JSON after it has been tidied, or refuses it as
before. -/
def Ignores (part : Part) (r : Reader α) : Prop :=
  ∀ v v', v.IsProper → Tidied part v v' → r.ofValue v' = r.ofValue v

/-- The same for a record, by its members. -/
def IgnoresMembers (part : Part) (r : Record α) : Prop :=
  ∀ get get', (∀ name, Kept part name (get name) (get' name)) → r.ofValues get' = r.ofValues get

theorem ignores_scalar {f : Json → Option α} (array : ∀ items, f (.array items) = none)
    (object : ∀ members, f (.object members) = none) (ne : part ≠ .topic) :
    Ignores part (.scalar f) := by
  rintro v v' - tidied
  cases tidied with
  | same => rfl
  | topic => exact absurd rfl ne
  | array => exact (array _).trans (array _).symm
  | object => exact (object _).trans (object _).symm

theorem ignores_text (ne : part ≠ .topic) : Ignores part .text :=
  ignores_scalar (fun _ => rfl) (fun _ => rfl) ne

theorem Ignores.refine {r : Reader α} (h : Ignores part r) (f : α → Option β) :
    Ignores part (r.refine f) := by
  intro v v' proper tidied
  change (r.ofValue v' >>= f) = (r.ofValue v >>= f)
  rw [h v v' proper tidied]

theorem Ignores.optional {r : Reader α} (h : Ignores part r) (ne : part ≠ .topic) :
    Ignores part r.optional := by
  intro v v' proper tidied
  cases tidied with
  | same => rfl
  | topic => exact absurd rfl ne
  | array items => exact congrArg (Option.map some) (h _ _ proper (.array items))
  | object members => exact congrArg (Option.map some) (h _ _ proper (.object members))

theorem Ignores.nullable {r : Reader α} (h : Ignores part r) (ne : part ≠ .topic) (default : α) :
    Ignores part (r.nullable default) :=
  (h.optional ne).refine _

/-- A topic that is `null` is an empty text. -/
theorem ignores_topic : Ignores .topic (Reader.nullable .text "") := by
  rintro v v' - tidied
  cases tidied <;> rfl

theorem mapM_ofValue {r : Reader α} (h : ∀ i, Ignores (part.item i) r) {i : Nat}
    {items items' : List Json} (tidied : TidiedItems part i items items')
    (proper : ∀ v ∈ items, v.IsProper) : items'.mapM r.ofValue = items.mapM r.ofValue := by
  induction items generalizing i items' with
  | nil =>
    cases tidied
    rfl
  | cons v items ih =>
    rw [List.forall_mem_cons] at proper
    cases tidied with
    | cons first rest =>
      rw [List.mapM_cons, List.mapM_cons, h i v _ proper.1 first, ih rest proper.2]

theorem ignores_list {r : Reader α} (h : ∀ i, Ignores (part.item i) r) (ne : part ≠ .topic) :
    Ignores part (.list r) := by
  intro v v' proper tidied
  cases tidied with
  | same => rfl
  | topic => exact absurd rfl ne
  | array items =>
    cases proper with
    | array proper => exact mapM_ofValue h items proper
  | object members => rfl

/-! ### Records -/

theorem ignoresMembers_field (part : Part) (name : String) {r : Reader α} {default : Option α}
    (h : Ignores (part.member name) r)
    (null : ¬ part.IsNonce name → r.ofValue .null = default) :
    IgnoresMembers part (.field name r default) := by
  intro get get' kept
  have own := kept name
  simp only [Record.field]
  generalize get name = v at own
  generalize get' name = v' at own
  cases own with
  | absent => rfl
  | kept proper tidied => exact h _ _ proper tidied
  | dropped notNonce => exact (null notNonce).symm

theorem IgnoresMembers.seq {f : Record (α → β)} {a : Record α} (hf : IgnoresMembers part f)
    (ha : IgnoresMembers part a) : IgnoresMembers part (f <*> a) := by
  intro get get' kept
  change (f.ofValues get' <*> a.ofValues get') = (f.ofValues get <*> a.ofValues get)
  rw [hf get get' kept, ha get get' kept]

theorem IgnoresMembers.map {a : Record α} (ha : IgnoresMembers part a) (f : α → β) :
    IgnoresMembers part (f <$> a) :=
  IgnoresMembers.seq (f := pure f) (fun _ _ _ => rfl) ha

/-- A record ignores what its fields ignore, whether it is given as an object or as an array. -/
theorem IgnoresMembers.reader {r : Record α} (h : IgnoresMembers part r) (ne : part ≠ .topic)
    (fields : ∀ i own, (r.fields.map Prod.fst)[i]? = some own → part.item i = part.member own) :
    Ignores part r.reader := by
  intro v v' proper tidied
  cases tidied with
  | same => rfl
  | topic => exact absurd rfl ne
  | @array _ items items' tidied =>
    cases proper with
    | array proper =>
      change (if items'.length ≤ r.fields.length then r.ofValues _ else none) =
        if items.length ≤ r.fields.length then r.ofValues _ else none
      rw [length_eq_of_tidied tidied]
      split_ifs
      · refine h _ _ (kept_zip tidied proper fun j own hown => ?_)
        rw [Nat.zero_add]
        exact fields j own hown
      · rfl
  | object members =>
    cases proper with
    | object keys proper => exact h _ _ (kept_lookup members keys proper)

theorem ignoresMembers_textField (part : Part) (name : String) (h : part.member name ≠ .topic) :
    IgnoresMembers part (textField name) :=
  ignoresMembers_field part name ((ignores_text h).nullable h "") fun _ => rfl

theorem ignoresMembers_listField (part : Part) (name : String) {r : Reader α}
    (h : ∀ i, Ignores ((part.member name).item i) r) (ne : part.member name ≠ .topic) :
    IgnoresMembers part (listField name r) :=
  ignoresMembers_field part name ((ignores_list h ne).nullable ne []) fun _ => rfl

theorem ignoresMembers_optionalField (part : Part) (name : String) {r : Reader α}
    (h : Ignores (part.member name) r) (ne : part.member name ≠ .topic) :
    IgnoresMembers part (optionalField name r) :=
  ignoresMembers_field part name (h.optional ne) fun _ => rfl

/-- The items of an array are the parts that the fields are. -/
theorem item_eq_member {r : Record α} (names : r.fields.map Prod.fst = part.fields)
    (item : ∀ i, part.item i = (part.fields[i]?).elim .other part.member) (i : Nat) (own : String)
    (h : (r.fields.map Prod.fst)[i]? = some own) : part.item i = part.member own := by
  rw [item, ← names, h]
  rfl

theorem ignores_event : Ignores .event Event.record.reader := by
  have list : Ignores .topics (.list (.nullable .text "")) :=
    ignores_list (fun _ => ignores_topic) (by decide)
  have topics : IgnoresMembers .event (.field "topics"
      ((Reader.nullable (.list (.nullable .text "")) []).refine (·.mapM base64?)) (some [])) :=
    ignoresMembers_field .event "topics" ((list.nullable (by decide) []).refine _) fun _ => rfl
  have data : IgnoresMembers .event
      (.field "data" ((Reader.nullable .text "").refine base64?) (some [])) :=
    ignoresMembers_field .event "data"
      (((ignores_text (by decide)).nullable (by decide) "").refine _) fun _ => rfl
  have whole : IgnoresMembers .event Event.record :=
    ((((ignoresMembers_textField .event "identifier" (by decide)).map Event.mk).seq
      (ignoresMembers_textField .event "address" (by decide))).seq topics).seq data
  exact whole.reader (by decide) (item_eq_member rfl fun _ => rfl)

theorem ignores_logs : Ignores .logs Logs.record.reader := by
  have whole : IgnoresMembers .logs Logs.record :=
    ((ignoresMembers_textField .logs "address" (by decide)).map Logs.mk).seq
      (ignoresMembers_listField .logs "events" (fun _ => ignores_event) (by decide))
  exact whole.reader (by decide) (item_eq_member rfl fun _ => rfl)

theorem ignores_receipt : Ignores .other Receipt.record.reader :=
  ((ignoresMembers_textField .other "data" (by decide)).map Receipt.mk).reader (by decide)
    fun _ _ _ => rfl

/-- A nonce that is `null` is not ignored, and is not dropped either. -/
theorem ignores_result : Ignores .result ContractResult.record.reader := by
  have nonce : IgnoresMembers .result (.field "nonce" (.unsigned (Word.limit 64)) (some 0)) :=
    ignoresMembers_field .result "nonce"
      (ignores_scalar (fun _ => rfl) (fun _ => rfl) (by decide))
      fun notNonce => absurd ⟨rfl, rfl⟩ notNonce
  have whole : IgnoresMembers .result ContractResult.record :=
    (((((ignoresMembers_textField .result "hash" (by decide)).map ContractResult.mk).seq nonce).seq
      (ignoresMembers_textField .result "data" (by decide))).seq
      (ignoresMembers_textField .result "returnMessage" (by decide))).seq
      (ignoresMembers_optionalField .result "logs" ignores_logs (by decide))
  exact whole.reader (by decide) (item_eq_member rfl fun _ => rfl)

theorem ignores_transaction : Ignores .transaction record.reader := by
  have receiver : Ignores .other Reader.text := ignores_text (by decide)
  have whole : IgnoresMembers .transaction record :=
    ((((((((ignoresMembers_textField .transaction "hash" (by decide)).map
      ExecutedTransaction.mk).seq
      (ignoresMembers_textField .transaction "sender" (by decide))).seq
      (ignoresMembers_textField .transaction "receiver" (by decide))).seq
      (ignoresMembers_listField .transaction "receivers" (fun _ => receiver) (by decide))).seq
      (ignoresMembers_textField .transaction "status" (by decide))).seq
      (ignoresMembers_optionalField .transaction "receipt" ignores_receipt (by decide))).seq
      (ignoresMembers_listField .transaction "smartContractResults" (fun _ => ignores_result)
        (by decide))).seq
      (ignoresMembers_optionalField .transaction "logs" ignores_logs (by decide))
  exact whole.reader (by decide) (item_eq_member rfl fun _ => rfl)

end TxInspect.ExecutedTransaction
