import Mathlib.Data.List.Forall2
import TxInspect.Proofs.Json.Strings

/-!
# Values that are printed and read

What is printed of a value takes the machine from the place in front of the value to the place
after it, with a node that states the value (`Node.IsReadAs`).  So a document without numbers,
without duplicate keys and not nested too deep (`Readable`) is read back as it was
(`ofText_pretty`).
-/

namespace TxInspect.Json

/-! ### The machine on characters -/

namespace State

/-- The machine after more characters. -/
def after (s : State) (cs : List Char) : State :=
  (Utf8.encode cs).foldl step s

theorem after_append (s : State) (cs ds : List Char) :
    s.after (cs ++ ds) = (s.after cs).after ds := by
  unfold after
  rw [Utf8.encode_append, List.foldl_append]

theorem after_cons (s : State) (c : Char) (cs : List Char) :
    s.after (c :: cs) = (s.after [c]).after cs :=
  s.after_append [c] cs

end State

/-- White space may stand here. -/
def Task.AllowsSpace : Task → Prop
  | .keyText _ _ | .text _ | .number _ | .word _ _ _ => False
  | _ => True

theorem step_space {task : Task} (h : task.AllowsSpace) (around : List Frame) {b : UInt8}
    (hb : isSpace b = true) : (State.reading around task).step b = .reading around task := by
  cases task with
  | keyText | text | number | word => exact absurd h not_false
  | value | firstItem | nextItem | firstKey | key | nextMember | colon => exact if_pos hb

theorem foldl_space (task : Task) (h : task.AllowsSpace) (around : List Frame) {bs : List UInt8}
    (hbs : ∀ b ∈ bs, isSpace b = true) :
    bs.foldl State.step (.reading around task) = .reading around task := by
  induction bs with
  | nil => rfl
  | cons b bs ih =>
    rw [List.foldl_cons, step_space h around (hbs b List.mem_cons_self)]
    exact ih fun c hc => hbs c (List.mem_cons_of_mem b hc)

theorem isSpace_of_mem_newLine {level : Nat} {b : UInt8} (h : b ∈ Utf8.encode (newLine level)) :
    isSpace b = true := by
  obtain ⟨c, hc, hb⟩ := List.mem_flatMap.1 h
  have blank : c = '\n' ∨ c = ' ' := by
    rcases List.mem_cons.1 hc with rfl | hc
    · exact Or.inl rfl
    · exact Or.inr (List.eq_of_mem_replicate hc)
  rcases blank with rfl | rfl <;>
  · rw [List.mem_singleton.1 hb]
    decide

theorem after_newLine (task : Task) (h : task.AllowsSpace) (around : List Frame) (level : Nat) :
    (State.reading around task).after (newLine level) = .reading around task :=
  foldl_space task h around fun _ => isSpace_of_mem_newLine

/-- While it reads a string, the machine goes on as the reader of the string does. -/
def ReadsString (f : PartialLiteral → State) : Prop :=
  ∀ q b r, q.step b = .more r → (f q).step b = f r

theorem readsString_text (around : List Frame) :
    ReadsString fun q => .reading around (.text q) := by
  intro q b r h
  simp only [State.step, State.stepReading, h]

theorem readsString_keyText (around : List Frame) (before : List (Literal × Node)) :
    ReadsString fun q => .reading around (.keyText before q) := by
  intro q b r h
  simp only [State.step, State.stepReading, h]

theorem ReadsString.foldl_run? {f : PartialLiteral → State} (h : ReadsString f)
    {q r : PartialLiteral} {bs : List UInt8} (hr : q.run? bs = some r) :
    bs.foldl State.step (f q) = f r := by
  induction bs generalizing q with
  | nil => exact congrArg f (Option.some.inj hr)
  | cons b bs ih =>
    rw [PartialLiteral.run?] at hr
    split at hr
    · next p hp =>
      rw [List.foldl_cons, h q b p hp]
      exact ih hr
    · cases hr

theorem ReadsString.after_closed {f : PartialLiteral → State} (h : ReadsString f)
    {r : PartialLiteral} {cs : List Char}
    (run : PartialLiteral.run? .empty (Utf8.encode cs) = some r) :
    (f .empty).after (cs ++ ['\"']) = (f r).step 0x22 := by
  rw [State.after_append]
  exact congrArg (State.after · ['\"']) (h.foldl_run? run)

/-- A string between quotes is read as a value and as a key. -/
theorem exists_quoted (s : String) : ∃ q : Literal, q.read = .ok s ∧
    (∀ around, (State.reading around .value).after (quotedChars s) =
      State.afterValue (.text q) around) ∧
    ∀ around before, (State.reading around (.key before)).after (quotedChars s) =
      .reading around (.colon before q) := by
  obtain ⟨q, hq, run⟩ := exists_literal s
  refine ⟨q, hq, fun around => ?_, fun around before => ?_⟩
  · calc (State.reading around .value).after (quotedChars s)
        = (State.reading around (.text .empty)).after
            (s.toList.flatMap escapedChar ++ ['\"']) := State.after_cons _ '\"' _
      _ = (State.reading around (.text ⟨q.reverse, .plain⟩)).step 0x22 :=
          (readsString_text around).after_closed run
      _ = State.afterValue (.text q) around := by
          simp only [State.step, State.stepReading, PartialLiteral.step_quote]
  · calc (State.reading around (.key before)).after (quotedChars s)
        = (State.reading around (.keyText before .empty)).after
            (s.toList.flatMap escapedChar ++ ['\"']) := State.after_cons _ '\"' _
      _ = (State.reading around (.keyText before ⟨q.reverse, .plain⟩)).step 0x22 :=
          (readsString_keyText around before).after_closed run
      _ = .reading around (.colon before q) := by
          simp only [State.step, State.stepReading, PartialLiteral.step_quote]

/-! ### Values -/

variable {depth : Nat}

/-- What is printed of the value is read as the node, which states the value. -/
structure Node.IsReadAs (depth : Nat) (node : Node) (v : Json) : Prop where
  value_eq : node.value depth = .ok v
  after_eq : ∀ level around, (State.reading around .value).after (prettyChars level v) =
    State.afterValue node around

/-- What is printed of a member is read as the key and the node. -/
structure IsMemberReadAs (depth : Nat) (m : Literal × Node) (member : String × Json) : Prop where
  key_eq : m.1.read = .ok member.1
  after_key : ∀ around before, (State.reading around (.key before)).after (quotedChars member.1) =
    .reading around (.colon before m.1)
  value : m.2.IsReadAs depth member.2

theorem isReadAs_null : Node.null.IsReadAs depth .null :=
  ⟨rfl, fun _ _ => rfl⟩

theorem isReadAs_bool (b : Bool) : (Node.bool b).IsReadAs depth (.bool b) := by
  refine ⟨rfl, fun level around => ?_⟩
  cases b with
  | false => rfl
  | true => rfl

theorem exists_isReadAs_text (s : String) : ∃ node : Node, node.IsReadAs depth (.text s) := by
  obtain ⟨q, hq, after, -⟩ := exists_quoted s
  refine ⟨.text q, ?_, fun _ around => after around⟩
  rw [Node.value, hq]
  rfl

/-! ### Arrays -/

theorem after_prettyItems {nodes : List Node} {items : List Json}
    (h : List.Forall₂ (Node.IsReadAs depth) nodes items) (level : Nat) (around : List Frame)
    (before : List Node) :
    (State.reading around (.nextItem before)).after (prettyItems level items) =
      .reading around (.nextItem (nodes.reverse ++ before)) := by
  induction h generalizing before with
  | nil => rfl
  | @cons node item nodes items first _ ih =>
    have comma : (State.reading around (.nextItem before)).after [','] =
        .reading (.item before :: around) .value := rfl
    rw [prettyItems, State.after_append, State.after_append, State.after_cons, comma,
      after_newLine .value trivial, first.after_eq, State.afterValue, ih, List.reverse_cons,
      List.append_assoc]
    rfl

theorem values_eq_ok {nodes : List Node} {items : List Json}
    (h : List.Forall₂ (Node.IsReadAs depth) nodes items) :
    Node.values depth nodes = .ok items := by
  induction h with
  | nil => rfl
  | cons first _ ih =>
    rw [Node.values, first.value_eq, ih]
    rfl

/-- The first item of an array is read as any other value: no value begins with white space or with
the end of an array. -/
theorem after_firstItem (v : Json) (level : Nat) (hv : ∀ n, v ≠ .number n) (around : List Frame) :
    (State.reading around .firstItem).after (prettyChars level v) =
      (State.reading (.item [] :: around) .value).after (prettyChars level v) := by
  cases v with
  | null => rfl
  | bool b => cases b <;> rfl
  | number n => exact absurd rfl (hv n)
  | text s => rfl
  | array items => cases items <;> rfl
  | object members => cases members <;> rfl

theorem isReadAs_array {nodes : List Node} {items : List Json}
    (h : List.Forall₂ (Node.IsReadAs depth) nodes items) (plain : ∀ v ∈ items, ∀ n, v ≠ .number n) :
    (Node.array nodes none).IsReadAs (depth + 1) (.array items) := by
  constructor
  · rw [Node.value, values_eq_ok h]
    rfl
  · intro level around
    cases h with
    | nil => rfl
    | @cons node item nodes items first rest =>
      have opening : (State.reading around .value).after ['['] = .reading around .firstItem := rfl
      have closing : ∀ before, (State.reading around (.nextItem before)).after [']'] =
        State.afterValue (.array before.reverse none) around := fun _ => rfl
      rw [prettyChars, State.after_append, State.after_append, State.after_append,
        State.after_append, State.after_cons _ '[', opening, after_newLine .firstItem trivial,
        after_firstItem item _ (plain item List.mem_cons_self), first.after_eq, State.afterValue,
        after_prettyItems rest, after_newLine (.nextItem _) trivial, closing]
      simp

/-! ### Objects -/

theorem after_member {m : Literal × Node} {member : String × Json}
    (h : IsMemberReadAs depth m member) (level : Nat) (around : List Frame)
    (before : List (Literal × Node)) :
    (State.reading around (.key before)).after
        (quotedChars member.1 ++ ':' :: ' ' :: prettyChars level member.2) =
      .reading around (.nextMember (m :: before)) := by
  have colon : (State.reading around (.colon before m.1)).after [':'] =
      .reading (.member before m.1 :: around) .value := rfl
  have blank : (State.reading (.member before m.1 :: around) .value).after [' '] =
      .reading (.member before m.1 :: around) .value := rfl
  rw [State.after_append, h.after_key, State.after_cons, colon, State.after_cons, blank,
    h.value.after_eq, State.afterValue]

theorem after_prettyMembers {nodes : List (Literal × Node)} {members : List (String × Json)}
    (h : List.Forall₂ (IsMemberReadAs depth) nodes members) (level : Nat) (around : List Frame)
    (before : List (Literal × Node)) :
    (State.reading around (.nextMember before)).after (prettyMembers level members) =
      .reading around (.nextMember (nodes.reverse ++ before)) := by
  induction h generalizing before with
  | nil => rfl
  | @cons m member nodes members first _ ih =>
    have comma : (State.reading around (.nextMember before)).after [','] =
        .reading around (.key before) := rfl
    rw [prettyMembers, State.after_append, List.append_assoc, State.after_append,
      State.after_cons, comma, after_newLine (.key _) trivial, after_member first, ih,
      List.reverse_cons, List.append_assoc]
    rfl

theorem memberValues_eq_ok {nodes : List (Literal × Node)} {members : List (String × Json)}
    (h : List.Forall₂ (IsMemberReadAs depth) nodes members) :
    Node.memberValues depth nodes = .ok members := by
  induction h with
  | nil => rfl
  | cons first _ ih =>
    rw [Node.memberValues, first.key_eq, first.value.value_eq, ih]
    rfl

theorem put_of_notMem {name : String} {ms : List (String × Json)} (h : name ∉ ms.map Prod.fst)
    (value : Json) : put name value ms = ms ++ [(name, value)] := by
  induction ms with
  | nil => rfl
  | cons m ms ih =>
    rw [List.map_cons, List.mem_cons, not_or] at h
    rw [put, if_neg (Ne.symm h.1), ih h.2]
    rfl

/-- An object without duplicate keys has the members that are written. -/
theorem ofMembers_of_nodup {members : List (String × Json)}
    (h : (members.map Prod.fst).Nodup) : ofMembers members = .object members := by
  have fold : ∀ ms rest : List (String × Json), ((ms ++ rest).map Prod.fst).Nodup →
      rest.foldl (fun ms m => put m.1 m.2 ms) ms = ms ++ rest := by
    intro ms rest
    induction rest generalizing ms with
    | nil => simp
    | cons m rest ih =>
      intro nodup
      have new : m.1 ∉ ms.map Prod.fst := by
        rw [List.map_append, List.map_cons] at nodup
        intro hm
        exact (List.nodup_append.1 nodup).2.2 m.1 hm m.1 List.mem_cons_self rfl
      rw [List.foldl_cons, put_of_notMem new, ih _ (by simpa using nodup)]
      simp
  exact congrArg Json.object (fold [] members h)

theorem isReadAs_object {nodes : List (Literal × Node)} {members : List (String × Json)}
    (h : List.Forall₂ (IsMemberReadAs depth) nodes members)
    (keys : (members.map Prod.fst).Nodup) :
    (Node.object nodes none).IsReadAs (depth + 1) (.object members) := by
  constructor
  · rw [Node.value, memberValues_eq_ok h]
    exact congrArg Except.ok (ofMembers_of_nodup keys)
  · intro level around
    cases h with
    | nil => rfl
    | @cons m member nodes members first rest =>
      have opening : (State.reading around .value).after ['\x7B'] =
        .reading around .firstKey := rfl
      have closing : ∀ before, (State.reading around (.nextMember before)).after ['\x7D'] =
        State.afterValue (.object before.reverse none) around := fun _ => rfl
      -- The first key of an object is read as any other one.
      have quote : ∀ cs, (State.reading around .firstKey).after (quotedChars member.1 ++ cs) =
        (State.reading around (.key [])).after (quotedChars member.1 ++ cs) := fun _ => rfl
      rw [prettyChars, State.after_append, State.after_append, State.after_append,
        List.append_assoc, State.after_append, State.after_cons _ '\x7B', opening,
        after_newLine .firstKey trivial, quote, after_member first, after_prettyMembers rest,
        after_newLine (.nextMember _) trivial, closing]
      simp

/-! ### Documents -/

/-- A value that is read back as it is printed: it holds no numbers, its objects have no key twice,
and its arrays and objects are nested at most `depth` deep. -/
inductive Readable : Nat → Json → Prop where
  | null (depth : Nat) : Readable depth .null
  | bool (depth : Nat) (b : Bool) : Readable depth (.bool b)
  | text (depth : Nat) (s : String) : Readable depth (.text s)
  | array {depth : Nat} {items : List Json} (h : ∀ v ∈ items, Readable depth v) :
    Readable (depth + 1) (.array items)
  | object {depth : Nat} {members : List (String × Json)} (keys : (members.map Prod.fst).Nodup)
    (h : ∀ m ∈ members, Readable depth m.2) : Readable (depth + 1) (.object members)

theorem Readable.ne_number {v : Json} (h : Readable depth v) (n : Numeral) : v ≠ .number n := by
  rintro rfl
  cases h

theorem exists_forall₂ {α β : Type} {R : β → α → Prop} {as : List α}
    (h : ∀ a ∈ as, ∃ b, R b a) : ∃ bs, List.Forall₂ R bs as := by
  induction as with
  | nil => exact ⟨[], .nil⟩
  | cons a as ih =>
    obtain ⟨b, hb⟩ := h a List.mem_cons_self
    obtain ⟨bs, hbs⟩ := ih fun c hc => h c (List.mem_cons_of_mem a hc)
    exact ⟨b :: bs, .cons hb hbs⟩

theorem Readable.exists_isReadAs {v : Json} (h : Readable depth v) :
    ∃ node : Node, node.IsReadAs depth v := by
  -- The hypotheses give a node for each part; strings get theirs from the text alone.
  induction h with
  | null => exact ⟨.null, isReadAs_null⟩
  | bool _ b => exact ⟨.bool b, isReadAs_bool b⟩
  | text _ s => exact exists_isReadAs_text s
  | array h ih =>
    obtain ⟨nodes, hnodes⟩ := exists_forall₂ ih
    exact ⟨.array nodes none, isReadAs_array hnodes fun v hv => (h v hv).ne_number⟩
  | object keys _ ih =>
    obtain ⟨nodes, hnodes⟩ := exists_forall₂ (R := IsMemberReadAs _) fun member hmember => by
      obtain ⟨q, hq, -, afterKey⟩ := exists_quoted member.1
      obtain ⟨node, hnode⟩ := ih member hmember
      exact ⟨(q, node), hq, afterKey, hnode⟩
    exact ⟨.object nodes none, isReadAs_object hnodes keys⟩

/-- A document is read back as it was printed. -/
theorem ofText_pretty {v : Json} (h : Readable maxDepth v) :
    ofText (Utf8.bytes v.pretty) = .ok v := by
  obtain ⟨node, value, after⟩ := h.exists_isReadAs
  have whole : scan (Utf8.bytes v.pretty) = ⟨node, false⟩ := by
    rw [scan, Utf8.bytes, pretty, String.toList_ofList]
    exact congrArg State.finish (after 0 [])
  rw [ofText, whole]
  dsimp only
  rw [value]
  rfl

end TxInspect.Json
