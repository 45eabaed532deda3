import Mathlib.Data.List.Forall2
import TxInspect.Proofs.Json.Embedding
import TxInspect.Proofs.Json.Places
import TxInspect.Proofs.Json.Proper
import TxInspect.Proofs.Text.Pieces

/-!
# An object around a value

The text of an object that is built around the text of a value (`Surroundings.around`) states the
value as a member, whatever stands beside it: it reads if the value does, and is refused for the
same reason otherwise (`Surroundings.exists_wrap`).  So far as they are whole, the value and the
members may be written in any way, with any white space.
-/

namespace TxInspect.Json

open Results

/-! ### Depth -/

/-- A value that does not break off, with arrays and objects in it nested at most `depth` deep. -/
inductive Node.IsWhole : Nat → Node → Prop where
  | null (depth : Nat) : Node.IsWhole depth .null
  | bool (depth : Nat) (b : Bool) : Node.IsWhole depth (.bool b)
  | number (depth : Nat) (n : Numeral) : Node.IsWhole depth (.number n)
  | text (depth : Nat) (q : Literal) : Node.IsWhole depth (.text q)
  | array {depth : Nat} {items : List Node} (h : ∀ node ∈ items, Node.IsWhole depth node) :
    Node.IsWhole (depth + 1) (.array items none)
  | object {depth : Nat} {members : List (Literal × Node)}
    (h : ∀ m ∈ members, Node.IsWhole depth m.2) : Node.IsWhole (depth + 1) (.object members none)

variable {depth : Nat} {node : Node}

theorem Node.IsWhole.not_breaksOff (h : node.IsWhole depth) : ¬ node.BreaksOff := by
  cases h <;> simp [Node.BreaksOff]

theorem eq_none_of_readEnd {ending : Option Break} {u : Unit} (h : readEnd ending = .ok u) :
    ending = none := by
  cases ending with
  | none => rfl
  | some b => cases h

theorem not_breaksOff_of_value {v : Json} (h : node.value depth = .ok v) : ¬ node.BreaksOff := by
  cases node with
  | null | bool | number | text => exact not_false
  | array items ending =>
    cases depth with
    | zero => cases h
    | succ depth =>
      obtain ⟨_, -, h⟩ := bind_eq_ok_iff.1 h
      obtain ⟨_, whole, -⟩ := bind_eq_ok_iff.1 h
      exact not_not_intro (eq_none_of_readEnd whole)
  | object members ending =>
    cases depth with
    | zero => cases h
    | succ depth =>
      obtain ⟨_, -, h⟩ := bind_eq_ok_iff.1 h
      obtain ⟨_, whole, -⟩ := bind_eq_ok_iff.1 h
      exact not_not_intro (eq_none_of_readEnd whole)
  | broken b => cases h

theorem values_congr {deeper : Nat} {nodes : List Node}
    (h : ∀ node ∈ nodes, node.value deeper = node.value depth) :
    Node.values deeper nodes = Node.values depth nodes := by
  induction nodes with
  | nil => rfl
  | cons node nodes ih =>
    rw [List.forall_mem_cons] at h
    rw [Node.values, Node.values, h.1, ih h.2]

theorem memberValues_congr {deeper : Nat} {members : List (Literal × Node)}
    (h : ∀ m ∈ members, m.2.value deeper = m.2.value depth) :
    Node.memberValues deeper members = Node.memberValues depth members := by
  induction members with
  | nil => rfl
  | cons m members ih =>
    rw [List.forall_mem_cons] at h
    rw [Node.memberValues, Node.memberValues, h.1, ih h.2]

/-- A whole value reads in the same way where it may be nested deeper. -/
theorem Node.IsWhole.value_eq (h : node.IsWhole depth) {deeper : Nat} (hle : depth ≤ deeper) :
    node.value deeper = node.value depth := by
  induction h generalizing deeper with
  | null | bool | number | text => simp only [Node.value]
  | array _ ih =>
    obtain ⟨more, rfl⟩ := Nat.exists_eq_add_of_le' (Nat.le_trans (Nat.le_add_left 1 _) hle)
    have inside := Nat.le_of_succ_le_succ hle
    rw [Node.value, Node.value, values_congr fun node hnode => ih node hnode inside]
  | object _ ih =>
    obtain ⟨more, rfl⟩ := Nat.exists_eq_add_of_le' (Nat.le_trans (Nat.le_add_left 1 _) hle)
    have inside := Nat.le_of_succ_le_succ hle
    rw [Node.value, Node.value, memberValues_congr fun m hm => ih m hm inside]

/-- A JSON text with arrays and objects nested at most `depth` deep.  It may still be refused for
one of its strings or numbers. -/
def IsJson (depth : Nat) (text : List UInt8) : Prop :=
  ∃ node, scan text = ⟨node, false⟩ ∧ node.IsWhole depth

/-- Reads a document in which arrays and objects may be nested `depth` deep. -/
def ofTextWithin (depth : Nat) (text : List UInt8) : Except Fault Json := do
  let s := scan text
  let value ← s.root.value depth
  if s.hasMore then .error .malformed else return value

theorem ofTextWithin_eq_ok {text : List UInt8} {v : Json} (h : ofTextWithin depth text = .ok v) :
    ∃ node : Node, scan text = ⟨node, false⟩ ∧ node.value depth = .ok v := by
  obtain ⟨value, hvalue, h⟩ := bind_eq_ok_iff.1 h
  split_ifs at h with more
  cases h
  exact ⟨_, by rw [← Bool.eq_false_iff.2 more], hvalue⟩

theorem memberValues_append (depth : Nat) (ms ns : List (Literal × Node)) :
    Node.memberValues depth (ms ++ ns) = Node.memberValues depth ms >>= fun vs =>
      (Node.memberValues depth ns).map (vs ++ ·) := by
  induction ms with
  | nil =>
    rw [List.nil_append]
    cases Node.memberValues depth ns <;> rfl
  | cons m ms ih =>
    rw [List.cons_append, Node.memberValues, Node.memberValues, ih]
    cases m.1.read with
    | error e => rfl
    | ok name =>
      cases m.2.value depth with
      | error e => rfl
      | ok value =>
        cases Node.memberValues depth ms with
        | error e => rfl
        | ok vs => cases Node.memberValues depth ns <;> rfl

/-! ### Members as they are written -/

/-- A key may stand here, behind these members. -/
inductive Task.AwaitsKey : List (Literal × Node) → Task → Prop where
  | first : Task.AwaitsKey [] .firstKey
  | next (before : List (Literal × Node)) : Task.AwaitsKey before (.key before)

/-- The bytes are read as this member wherever one may stand. -/
def StatesMember (bytes : List UInt8) (m : Literal × Node) : Prop :=
  ∀ (before : List (Literal × Node)) (task : Task), task.AwaitsKey before →
    ∀ (b : UInt8) (rest : List UInt8), EndsMember b →
      (bytes ++ b :: rest).foldl State.step (.reading [] task) =
        (b :: rest).foldl State.step (.reading [] (.nextMember (m :: before)))

/-- A key as it is written, with white space around its string, and the colon. -/
structure Label (name : String) where
  front : List UInt8
  written : List UInt8
  gap : List UInt8
  isSpace_front : ∀ b ∈ front, isSpace b = true
  isQuoted : IsQuoted written name
  isSpace_gap : ∀ b ∈ gap, isSpace b = true

/-- The key with its colon. -/
def Label.bytes {name : String} (label : Label name) : List UInt8 :=
  label.front ++ quotation label.written ++ label.gap ++ [0x3A]

theorem Label.foldl_bytes {name : String} (label : Label name) : ∃ key : Literal,
    key.read = .ok name ∧ ∀ before task, Task.AwaitsKey before task →
      label.bytes.foldl State.step (.reading [] task) = .reading [.member before key] .value := by
  obtain ⟨key, run, read⟩ := label.isQuoted
  refine ⟨key, read, fun before task awaits => ?_⟩
  have space : task.AllowsSpace := by cases awaits <;> trivial
  have opening : (State.reading [] task).step 0x22 = .reading [] (.keyText before .empty) := by
    cases awaits <;> rfl
  have quoted : (quotation label.written).foldl State.step (.reading [] task) =
      .reading [] (.colon before key) := by
    rw [quotation, List.foldl_cons, opening, List.foldl_append,
      (readsString_keyText [] before).foldl_run? run, List.foldl_cons, List.foldl_nil, State.step,
      State.stepReading, PartialLiteral.step_quote]
  rw [Label.bytes, List.foldl_append, List.foldl_append, List.foldl_append,
    foldl_space task space [] label.isSpace_front, quoted,
    foldl_space (.colon before key) trivial [] label.isSpace_gap]
  rfl

/-- A key and the text of a whole value are a member. -/
theorem Label.exists_statesMember {name : String} (label : Label name) : ∃ key : Literal,
    key.read = .ok name ∧ ∀ text node, scan text = ⟨node, false⟩ → ¬ node.BreaksOff →
      StatesMember (label.bytes ++ text) (key, node) := by
  obtain ⟨key, read, run⟩ := label.foldl_bytes
  refine ⟨key, read, fun text node h whole before task awaits b rest ends => ?_⟩
  rw [List.append_assoc, List.foldl_append, run before task awaits,
    foldl_of_scan h whole [.member before key] ends]
  rfl

/-- Members between commas, up to the end of their object. -/
theorem foldl_joined {texts : List (List UInt8)} {members : List (Literal × Node)}
    (h : List.Forall₂ StatesMember texts members) (nonempty : texts ≠ [])
    {before : List (Literal × Node)} {task : Task} (awaits : task.AwaitsKey before)
    (rest : List UInt8) :
    (Text.joined 0x2C texts ++ 0x7D :: rest).foldl State.step (.reading [] task) =
      rest.foldl State.step (.done (.object (before.reverse ++ members) none)) := by
  induction h generalizing before task with
  | nil => exact absurd rfl nonempty
  | @cons text m texts members first others ih =>
    cases others with
    | nil =>
      rw [Text.joined, first before task awaits 0x7D rest (Or.inr (Or.inr rfl)), List.foldl_cons,
        ← List.reverse_cons]
      rfl
    | @cons text' m' texts members second others =>
      have comma : (State.reading [] (.nextMember (m :: before))).step 0x2C =
          .reading [] (.key (m :: before)) := rfl
      rw [Text.joined, List.append_assoc, List.cons_append,
        first before task awaits 0x2C _ (Or.inr (Or.inl rfl)), List.foldl_cons, comma,
        ih (List.cons_ne_nil _ _) (.next (m :: before)), List.reverse_cons, List.append_assoc]
      rfl

theorem foldl_done (root : Node) {bs : List UInt8} (hbs : ∀ b ∈ bs, isSpace b = true) :
    bs.foldl State.step (.done root) = .done root := by
  induction bs with
  | nil => rfl
  | cons b bs ih =>
    have stays : (State.done root).step b = .done root := if_pos (hbs b List.mem_cons_self)
    rw [List.foldl_cons, stays]
    exact ih fun c hc => hbs c (List.mem_cons_of_mem b hc)

/-- An object of members between commas. -/
theorem scan_object {left right : List UInt8} (hleft : ∀ b ∈ left, isSpace b = true)
    (hright : ∀ b ∈ right, isSpace b = true) {texts : List (List UInt8)}
    {members : List (Literal × Node)} (h : List.Forall₂ StatesMember texts members)
    (nonempty : texts ≠ []) :
    scan (left ++ 0x7B :: (Text.joined 0x2C texts ++ 0x7D :: right)) =
      ⟨.object members none, false⟩ := by
  have opening : (State.reading [] .value).step 0x7B = .reading [] .firstKey := rfl
  rw [scan, State.start, List.foldl_append, foldl_space .value trivial [] hleft,
    List.foldl_cons, opening, foldl_joined h nonempty .first, List.reverse_nil, List.nil_append,
    foldl_done _ hright]
  rfl

/-! ### Surroundings -/

/-- A member of another name, with a value that reads. -/
structure OtherMember (depth : Nat) (name : String) where
  key : String
  key_ne : key ≠ name
  label : Label key
  text : List UInt8
  value : Json
  reads : ofTextWithin depth text = .ok value

/-- The member with its key. -/
def OtherMember.bytes {name : String} (m : OtherMember depth name) : List UInt8 :=
  m.label.bytes ++ m.text

/-- What may stand around the value of a member in the text of an object: its key, white space and
other members. -/
structure Surroundings (depth : Nat) (name : String) where
  left : List UInt8
  right : List UInt8
  isSpace_left : ∀ b ∈ left, isSpace b = true
  isSpace_right : ∀ b ∈ right, isSpace b = true
  before : List (OtherMember depth name)
  behind : List (OtherMember depth name)
  label : Label name

/-- The object with the value of the member. -/
def Surroundings.around {name : String} (s : Surroundings depth name) (text : List UInt8) :
    List UInt8 :=
  s.left ++ 0x7B :: (Text.joined 0x2C (s.before.map OtherMember.bytes ++
    (s.label.bytes ++ text) :: s.behind.map OtherMember.bytes) ++ 0x7D :: s.right)

/-- Members that read are read in front of any others and behind them. -/
theorem exists_others {name : String} (ms : List (OtherMember depth name)) :
    ∃ members values, List.Forall₂ StatesMember (ms.map OtherMember.bytes) members ∧
      Node.memberValues depth members = .ok values ∧ name ∉ values.map Prod.fst := by
  induction ms with
  | nil => exact ⟨[], [], .nil, rfl, List.not_mem_nil⟩
  | cons m ms ih =>
    obtain ⟨members, values, stated, read, absent⟩ := ih
    obtain ⟨key, hkey, states⟩ := m.label.exists_statesMember
    obtain ⟨node, hscan, hvalue⟩ := ofTextWithin_eq_ok m.reads
    have first := states m.text node hscan (not_breaksOff_of_value hvalue)
    refine ⟨(key, node) :: members, (m.key, m.value) :: values, .cons first stated, ?_, ?_⟩
    · rw [Node.memberValues, hkey, hvalue, read]
      rfl
    · rw [List.map_cons, List.mem_cons, not_or]
      exact ⟨Ne.symm m.key_ne, absent⟩

/-- The object states the value as its member, and nothing else depends on the value. -/
theorem Surroundings.exists_wrap {name : String} (s : Surroundings depth name) :
    ∃ wrap : Json → Json, (∀ v, (wrap v).member? name = some v) ∧
      ∀ text node, scan text = ⟨node, false⟩ → ¬ node.BreaksOff →
        ∃ object : Node, scan (s.around text) = ⟨object, false⟩ ∧ ¬ object.BreaksOff ∧
          object.value (depth + 1) = (node.value depth).map wrap := by
  obtain ⟨ms, vs, stated, read, -⟩ := exists_others s.before
  obtain ⟨ns, ws, stated', read', absent⟩ := exists_others s.behind
  obtain ⟨key, hkey, states⟩ := s.label.exists_statesMember
  refine ⟨fun v => ofMembers (vs ++ (name, v) :: ws), fun v => ?_, fun text node hscan whole => ?_⟩
  · have last : ws.reverse.lookup name = none := by
      refine List.lookup_eq_none_iff.2 fun m hm => bne_iff_ne.2 ?_
      rintro rfl
      exact absent (List.mem_map_of_mem (List.mem_reverse.1 hm))
    rw [member?_ofMembers, List.reverse_append, List.reverse_cons, List.append_assoc,
      List.lookup_append, last]
    simp
  · have members := List.rel_append stated (.cons (states text node hscan whole) stated')
    refine ⟨_, scan_object s.isSpace_left s.isSpace_right members (by simp), not_not_intro rfl, ?_⟩
    rw [Node.value, memberValues_append, read, Node.memberValues, hkey, read']
    cases node.value depth <;> rfl

end TxInspect.Json
