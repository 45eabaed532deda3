import Mathlib.Tactic.Common
import TxInspect.Json.Reader
import TxInspect.Proofs.Json.Extent

/-!
# Reading records from a text

When a record put together out of fields reads (`Record.ofNodes_seq_eq_ok`), and where the values of
its fields come from: they stand in the value that is read (`Record.exists_of_reader_eq_ok`).  So a
text that a field states is no longer than the whole text (`Reader.length_le_of_nullable_text`), and
an object is read in the same way when one field is stated by another node
(`Record.ofNode_exchange`).
-/

namespace TxInspect.Json

open Results

variable {α β : Type}

namespace Record

theorem ofNodes_seq_eq_ok {f : Record (α → β)} {a : Record α} {get : String → Option Node} {b : β} :
    (f <*> a).ofNodes get = .ok b ↔
      ∃ g x, f.ofNodes get = .ok g ∧ a.ofNodes get = .ok x ∧ g x = b := by
  change (f.ofNodes get <*> a.ofNodes get) = .ok b ↔ _
  cases f.ofNodes get <;> cases a.ofNodes get <;> simp [Seq.seq, Except.bind, Except.map]

theorem ofNodes_map_eq_ok {f : α → β} {a : Record α} {get : String → Option Node} {b : β} :
    (f <$> a).ofNodes get = .ok b ↔ ∃ x, a.ofNodes get = .ok x ∧ f x = b := by
  change (pure f <*> a : Record β).ofNodes get = .ok b ↔ _
  rw [ofNodes_seq_eq_ok]
  constructor
  · rintro ⟨g, x, hg, hx, rfl⟩
    cases hg
    exact ⟨x, hx, rfl⟩
  · rintro ⟨x, hx, rfl⟩
    exact ⟨f, x, rfl, hx, rfl⟩

theorem ofNodes_field_of_some {name : String} (r : Reader α) (default : Option α)
    {get : String → Option Node} {node : Node} (h : get name = some node) :
    (field name r default).ofNodes get = r.ofNode node := by
  simp only [field, h]

theorem ofNodes_field_congr {name : String} (r : Reader α) (default : Option α)
    {get get' : String → Option Node} (h : get name = get' name) :
    (field name r default).ofNodes get = (field name r default).ofNodes get' := by
  simp only [field, h]

/-- The nodes that are found among the members of an object are nodes of these members. -/
theorem mem_of_findMembers {r : Record α} {seen : List String} {members : List (Literal × Node)}
    {found : List (String × Node)} (h : r.findMembers seen members = .ok found) :
    ∀ f ∈ found, ∃ m ∈ members, m.2 = f.2 := by
  induction members generalizing seen found with
  | nil => cases h; simp
  | cons m members ih =>
    obtain ⟨key, node⟩ := m
    rw [findMembers] at h
    obtain ⟨name, -, h⟩ := bind_eq_ok_iff.1 h
    split at h
    · obtain ⟨-, -, h⟩ := bind_eq_ok_iff.1 h
      intro f hf
      obtain ⟨m, hm, heq⟩ := ih h f hf
      exact ⟨m, List.mem_cons_of_mem _ hm, heq⟩
    · split_ifs at h
      · obtain ⟨-, h, -⟩ := bind_eq_ok_iff.1 h
        cases h
      · obtain ⟨-, -, h⟩ := bind_eq_ok_iff.1 h
        obtain ⟨rest, hrest, h⟩ := bind_eq_ok_iff.1 h
        cases h
        intro f hf
        rcases List.mem_cons.1 hf with rfl | hf
        · exact ⟨(key, node), List.mem_cons_self, rfl⟩
        · obtain ⟨m, hm, heq⟩ := ih hrest f hf
          exact ⟨m, List.mem_cons_of_mem _ hm, heq⟩

section Exchange

variable {r : Record α} {name : String} {check : Node → Except Fault Unit} {key : Literal}
  {node : Node} {seen : List String} {members rest : List (Literal × Node)}

/-- A member that is a field is checked and kept, once. -/
theorem findMembers_cons_field (hkey : key.read = .ok name)
    (hcheck : r.fields.lookup name = some check) :
    r.findMembers seen ((key, node) :: members) =
      if name ∈ seen then .error .mismatch
      else check node >>= fun _ =>
        (r.findMembers (name :: seen) members).map ((name, node) :: ·) := by
  rw [findMembers, hkey]
  simp only [bind, Except.bind, hcheck, List.contains_eq_mem, decide_eq_true_eq]
  split_ifs
  · rfl
  · cases check node with
    | error e => rfl
    | ok _ => cases r.findMembers (name :: seen) members <;> rfl

/-- Any other member is skipped. -/
theorem findMembers_cons_other (hkey : key.read = .ok name) (hcheck : r.fields.lookup name = none) :
    r.findMembers seen ((key, node) :: members) =
      node.skip >>= fun _ => r.findMembers seen members := by
  rw [findMembers, hkey]
  simp only [bind, Except.bind, hcheck]

/-- One member of an object with another node.  An object in which the first node is found is read
with the other one in the same way, unless the other one fails its check. -/
theorem findMembers_exchange (hkey : key.read = .ok name)
    (hcheck : r.fields.lookup name = some check) (other : Node) {found : List (String × Node)}
    (h : r.findMembers seen (members ++ (key, node) :: rest) = .ok found) :
    name ∉ seen ∧ found.lookup name = some node ∧
      (∀ e, check other = .error e →
        r.findMembers seen (members ++ (key, other) :: rest) = .error e) ∧
      (check other = .ok () → ∃ again,
        r.findMembers seen (members ++ (key, other) :: rest) = .ok again ∧
          again.lookup name = some other ∧ ∀ x, x ≠ name → again.lookup x = found.lookup x) := by
  induction members generalizing seen found with
  | nil =>
    rw [List.nil_append, findMembers_cons_field hkey hcheck] at h
    rw [List.nil_append, findMembers_cons_field hkey hcheck]
    split_ifs at h with fresh
    obtain ⟨-, -, h⟩ := bind_eq_ok_iff.1 h
    obtain ⟨tail, htail, rfl⟩ := map_eq_ok_iff.1 h
    rw [if_neg fresh]
    refine ⟨fresh, List.lookup_cons_self, fun e he => by rw [he]; rfl, fun passes => ?_⟩
    refine ⟨(name, other) :: tail, by rw [passes, htail]; rfl, List.lookup_cons_self, ?_⟩
    intro x hx
    rw [List.lookup_cons, List.lookup_cons, beq_false_of_ne hx]
  | cons m members ih =>
    obtain ⟨key', node'⟩ := m
    rw [List.cons_append] at h
    rw [List.cons_append]
    obtain ⟨name', hkey', -⟩ := bind_eq_ok_iff.1 h
    cases hcheck' : r.fields.lookup name' with
    | none =>
      rw [findMembers_cons_other hkey' hcheck'] at h
      rw [findMembers_cons_other hkey' hcheck']
      obtain ⟨_, skips, h⟩ := bind_eq_ok_iff.1 h
      rw [skips]
      exact ih h
    | some check' =>
      rw [findMembers_cons_field hkey' hcheck'] at h
      rw [findMembers_cons_field hkey' hcheck']
      split_ifs at h with fresh
      obtain ⟨_, passes', h⟩ := bind_eq_ok_iff.1 h
      obtain ⟨tail, htail, rfl⟩ := map_eq_ok_iff.1 h
      obtain ⟨new, lookup, fails, reads⟩ := ih htail
      obtain ⟨ne, absent⟩ := not_or.1 (mt List.mem_cons.2 new)
      have apart : (name == name') = false := beq_false_of_ne ne
      rw [if_neg fresh, passes']
      refine ⟨absent, ?_, fun e he => ?_, fun passes => ?_⟩
      · rw [List.lookup_cons, apart]
        exact lookup
      · change (r.findMembers (name' :: seen) _).map _ = _
        rw [fails e he]
        rfl
      · obtain ⟨again, hagain, own, same⟩ := reads passes
        refine ⟨(name', node') :: again, ?_, ?_, fun x hx => ?_⟩
        · change (r.findMembers (name' :: seen) _).map _ = _
          rw [hagain]
          rfl
        · rw [List.lookup_cons, apart]
          exact own
        · rw [List.lookup_cons, List.lookup_cons, same x hx]

/-- The same for the record that is read from the object. -/
theorem ofNode_exchange (hkey : key.read = .ok name) (hcheck : r.fields.lookup name = some check)
    {ending : Option Break} {a : α}
    (h : r.reader.ofNode (.object (members ++ (key, node) :: rest) ending) = .ok a) :
    ending = none ∧ ∃ get, get name = some node ∧ r.ofNodes get = .ok a ∧ ∀ other,
      (∀ e, check other = .error e →
        r.reader.ofNode (.object (members ++ (key, other) :: rest) none) = .error e) ∧
      (check other = .ok () → ∃ get', get' name = some other ∧ (∀ x, x ≠ name → get' x = get x) ∧
        r.reader.ofNode (.object (members ++ (key, other) :: rest) none) = r.ofNodes get') := by
  obtain ⟨found, hfound, h⟩ := bind_eq_ok_iff.1 h
  obtain ⟨_, hending, h⟩ := bind_eq_ok_iff.1 h
  obtain ⟨-, own, -⟩ := findMembers_exchange hkey hcheck node hfound
  have whole : ending = none := by
    cases ending with
    | none => rfl
    | some b => cases hending
  refine ⟨whole, (found.lookup ·), own, h, fun other => ?_⟩
  obtain ⟨-, -, fails, reads⟩ := findMembers_exchange hkey hcheck other hfound
  constructor
  · intro e he
    simp only [reader, fails e he]
    rfl
  · intro passes
    obtain ⟨again, hagain, own', same⟩ := reads passes
    refine ⟨(again.lookup ·), own', same, ?_⟩
    simp only [reader, hagain]
    rfl

end Exchange

/-- The nodes that are found among the items of an array are items of it. -/
theorem mem_of_findItems {ending : Option Break}
    {fields : List (String × (Node → Except Fault Unit))} {items : List Node}
    {found : List (String × Node)} (h : findItems ending fields items = .ok found) :
    ∀ f ∈ found, f.2 ∈ items := by
  fun_induction findItems ending fields items generalizing found with
  | case1 =>
    obtain ⟨-, -, rfl⟩ := map_eq_ok_iff.1 h
    simp
  | case2 => cases h
  | case3 =>
    obtain ⟨-, -, rfl⟩ := map_eq_ok_iff.1 h
    simp
  | case4 name check fields node nodes ih =>
    obtain ⟨-, -, h⟩ := bind_eq_ok_iff.1 h
    obtain ⟨rest, hrest, h⟩ := bind_eq_ok_iff.1 h
    cases h
    intro f hf
    rcases List.mem_cons.1 hf with rfl | hf
    · exact List.mem_cons_self
    · exact List.mem_cons_of_mem _ (ih hrest f hf)

theorem mem_of_lookup {found : List (String × Node)} {name : String} {node : Node}
    (h : found.lookup name = some node) : ∃ f ∈ found, f.2 = node := by
  induction found with
  | nil => simp at h
  | cons f found ih =>
    rw [List.lookup_cons] at h
    split at h
    · cases h
      exact ⟨f, List.mem_cons_self, rfl⟩
    · obtain ⟨g, hg, heq⟩ := ih h
      exact ⟨g, List.mem_cons_of_mem _ hg, heq⟩

theorem refuse_ne_ok (node : Node) (a : α) : (node.refuse : Except Fault α) ≠ .ok a := by
  intro h
  unfold Node.refuse at h
  split at h
  · cases h
  · cases h
  · obtain ⟨-, -, h⟩ := bind_eq_ok_iff.1 h
    cases h

/-- A record is read from nodes that stand in the value. -/
theorem exists_of_reader_eq_ok {r : Record α} {node : Node} {a : α} {n : Nat}
    (h : r.reader.ofNode node = .ok a) (fits : node.Fits n) :
    ∃ get, r.ofNodes get = .ok a ∧ ∀ name x, get name = some x → x.Fits n := by
  simp only [reader] at h
  split at h
  · next members ending =>
    obtain ⟨found, hfound, h⟩ := bind_eq_ok_iff.1 h
    obtain ⟨-, -, h⟩ := bind_eq_ok_iff.1 h
    refine ⟨_, h, fun name x hx => ?_⟩
    obtain ⟨f, hf, rfl⟩ := mem_of_lookup hx
    obtain ⟨m, hm, heq⟩ := mem_of_findMembers hfound f hf
    cases fits with
    | object _ hall => exact heq ▸ hall m hm
  · next items ending =>
    obtain ⟨found, hfound, h⟩ := bind_eq_ok_iff.1 h
    refine ⟨_, h, fun name x hx => ?_⟩
    obtain ⟨f, hf, rfl⟩ := mem_of_lookup hx
    cases fits with
    | array _ hall => exact hall _ (mem_of_findItems hfound f hf)
  · exact absurd h (refuse_ne_ok _ a)

end Record

namespace Reader

theorem orMismatch_eq_ok {x : Option α} {a : α} (h : orMismatch x = .ok a) : x = some a := by
  cases x with
  | none => cases h
  | some b => cases h; rfl

/-- A text is read from a string alone. -/
theorem text_eq_ok {node : Node} {s : String} (h : text.ofNode node = .ok s) :
    ∃ q, node = .text q ∧ q.text? = some s := by
  cases node with
  | text q =>
    obtain ⟨value, hvalue, hs⟩ := bind_eq_ok_iff.1 h
    obtain ⟨t, ht, rfl⟩ := map_eq_ok_iff.1 hvalue
    cases orMismatch_eq_ok hs
    rw [Literal.read] at ht
    split at ht
    · next r hr =>
      cases ht
      exact ⟨q, rfl, hr⟩
    · cases ht
  | array items ending => cases h
  | object members ending => cases h
  | null => cases h
  | bool b => cases h
  | number m =>
    obtain ⟨value, hvalue, hs⟩ := bind_eq_ok_iff.1 h
    rw [Node.value] at hvalue
    split_ifs at hvalue
    cases hvalue
    cases hs
  | broken b => cases h

/-- A text that is read takes no more bytes than its string. -/
theorem length_le_of_text {node : Node} {s : String} {n : Nat} (h : text.ofNode node = .ok s)
    (fits : node.Fits n) : (Utf8.bytes s).length ≤ n := by
  obtain ⟨q, rfl, hq⟩ := text_eq_ok h
  rw [Literal.text?] at hq
  split at hq
  · next bs hbs =>
    rw [Utf8.bytes_of_text? hq]
    cases fits with
    | text hn => exact Nat.le_trans (Literal.length_le_extent hbs) hn
  · cases hq

theorem nullable_eq_ok {r : Reader α} {default : α} {node : Node} {a : α}
    (h : (r.nullable default).ofNode node = .ok a) :
    a = default ∨ r.ofNode node = .ok a := by
  obtain ⟨x, hx, ha⟩ := bind_eq_ok_iff.1 h
  have heq : x.getD default = a := by simpa using orMismatch_eq_ok ha
  cases node with
  | null =>
    cases hx
    exact Or.inl heq.symm
  | bool | number | text | array | object | broken =>
    obtain ⟨b, hb, rfl⟩ := map_eq_ok_iff.1 hx
    exact Or.inr (heq ▸ hb)

theorem length_le_of_nullable_text {node : Node} {s : String} {n : Nat}
    (h : (nullable text "").ofNode node = .ok s) (fits : node.Fits n) :
    (Utf8.bytes s).length ≤ n := by
  rcases nullable_eq_ok h with rfl | h
  · exact Nat.zero_le n
  · exact length_le_of_text h fits

end Reader

/-! ### Fields -/

namespace Record

/-- A text in a field, `null` and a missing field counting as the empty text. -/
theorem length_le_of_textField {name s : String} {get : String → Option Node} {n : Nat}
    (h : (field name (.nullable .text "") (some "")).ofNodes get = .ok s)
    (fits : ∀ node, get name = some node → node.Fits n) : (Utf8.bytes s).length ≤ n := by
  simp only [field] at h
  split at h
  · next node hnode => exact Reader.length_le_of_nullable_text h (fits node hnode)
  · cases h
    exact Nat.zero_le n

/-- What is read from a text comes from its value. -/
theorem exists_of_ofText_eq_ok {r : Record α} {text : List UInt8} {a : α}
    (h : r.reader.ofText text = .ok a) :
    ∃ get, r.ofNodes get = .ok a ∧ ∀ name x, get name = some x → x.Fits text.length := by
  obtain ⟨b, hb, h⟩ := bind_eq_ok_iff.1 h
  split_ifs at h
  cases h
  exact exists_of_reader_eq_ok hb (fits_scan text)

end Record

end TxInspect.Json
