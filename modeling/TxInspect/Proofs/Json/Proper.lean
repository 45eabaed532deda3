import Mathlib.Data.List.Induction
import Mathlib.Tactic.Common
import TxInspect.Json.Value
import TxInspect.Proofs.Results

/-!
# The keys of objects

Of several members with one key, the last one takes the place of the first: it is what the object
has under the key (`member?_ofMembers`).  So the objects in a value that has been read have no key
twice (`isProper_of_ofText`).
-/

namespace TxInspect.Json

open Results

theorem lookup_cons_eq_ite (key name : String) (value : Json) (ms : List (String × Json)) :
    ((name, value) :: ms).lookup key = if key = name then some value else ms.lookup key := by
  rw [List.lookup_cons]
  by_cases same : key = name
  · rw [if_pos same, beq_iff_eq.2 same]
  · rw [if_neg same, beq_false_of_ne same]

theorem lookup_put (name : String) (value : Json) (ms : List (String × Json)) (key : String) :
    (put name value ms).lookup key = if key = name then some value else ms.lookup key := by
  induction ms with
  | nil => exact lookup_cons_eq_ite key name value []
  | cons m ms ih =>
    obtain ⟨own, old⟩ := m
    rw [put]
    by_cases same : own = name
    · subst same
      rw [if_pos rfl, lookup_cons_eq_ite, lookup_cons_eq_ite]
      split_ifs <;> rfl
    · rw [if_neg same, lookup_cons_eq_ite, lookup_cons_eq_ite, ih]
      by_cases first : key = own
      · rw [if_pos first, if_neg (first ▸ same), if_pos first]
      · rw [if_neg first, if_neg first]

/-- Of several members with one key the last one counts. -/
theorem member?_ofMembers (ms : List (String × Json)) (key : String) :
    (ofMembers ms).member? key = ms.reverse.lookup key := by
  change (ms.foldl (fun ms m => put m.1 m.2 ms) []).lookup key = _
  induction ms using List.reverseRecOn with
  | nil => rfl
  | append_singleton ms m ih =>
    rw [List.foldl_append, List.foldl_cons, List.foldl_nil, lookup_put, ih, List.reverse_concat,
      lookup_cons_eq_ite]

/-- No object in the value has a key twice. -/
inductive IsProper : Json → Prop where
  | null : IsProper .null
  | bool (b : Bool) : IsProper (.bool b)
  | number (n : Numeral) : IsProper (.number n)
  | text (s : String) : IsProper (.text s)
  | array {items : List Json} (h : ∀ v ∈ items, IsProper v) : IsProper (.array items)
  | object {members : List (String × Json)} (keys : (members.map Prod.fst).Nodup)
    (h : ∀ m ∈ members, IsProper m.2) : IsProper (.object members)

theorem eq_or_mem_of_mem_put {name : String} {value : Json} {ms : List (String × Json)}
    {m : String × Json} (h : m ∈ put name value ms) : m = (name, value) ∨ m ∈ ms := by
  induction ms with
  | nil => exact Or.inl (List.mem_singleton.1 h)
  | cons first ms ih =>
    obtain ⟨own, old⟩ := first
    rw [put] at h
    split_ifs at h with same
    · rcases List.mem_cons.1 h with rfl | h
      · exact Or.inl rfl
      · exact Or.inr (List.mem_cons_of_mem _ h)
    · rcases List.mem_cons.1 h with rfl | h
      · exact Or.inr List.mem_cons_self
      · exact (ih h).imp_right (List.mem_cons_of_mem _)

theorem nodup_put {ms : List (String × Json)} (h : (ms.map Prod.fst).Nodup) (name : String)
    (value : Json) : ((put name value ms).map Prod.fst).Nodup := by
  induction ms with
  | nil => exact List.pairwise_singleton _ name
  | cons m ms ih =>
    obtain ⟨own, old⟩ := m
    rw [List.map_cons, List.nodup_cons] at h
    rw [put]
    split_ifs with same
    · rw [List.map_cons, List.nodup_cons, ← same]
      exact h
    · rw [List.map_cons, List.nodup_cons]
      refine ⟨fun twice => ?_, ih h.2⟩
      obtain ⟨m, hm, key⟩ := List.mem_map.1 twice
      rcases eq_or_mem_of_mem_put hm with rfl | hm
      · exact same key.symm
      · exact h.1 (key ▸ List.mem_map_of_mem hm)

/-- Members that are set one after the other make a proper object. -/
theorem isProper_ofMembers {members : List (String × Json)} (h : ∀ m ∈ members, m.2.IsProper) :
    (ofMembers members).IsProper := by
  have fold : ∀ ms : List (String × Json), (ms.map Prod.fst).Nodup → (∀ m ∈ ms, m.2.IsProper) →
      (Json.object (members.foldl (fun ms m => put m.1 m.2 ms) ms)).IsProper := by
    induction members with
    | nil => exact fun ms keys proper => .object keys proper
    | cons m members ih =>
      rw [List.forall_mem_cons] at h
      intro ms keys proper
      refine ih h.2 _ (nodup_put keys m.1 m.2) fun n hn => ?_
      rcases eq_or_mem_of_mem_put hn with rfl | hn
      · exact h.1
      · exact proper n hn
  exact fold [] List.nodup_nil (by simp)

theorem exists_of_values {depth : Nat} {nodes : List Node} {vs : List Json}
    (h : Node.values depth nodes = .ok vs) :
    ∀ v ∈ vs, ∃ node ∈ nodes, node.value depth = .ok v := by
  induction nodes generalizing vs with
  | nil =>
    cases h
    simp
  | cons node nodes ih =>
    obtain ⟨v, hv, h⟩ := bind_eq_ok_iff.1 h
    obtain ⟨rest, hrest, h⟩ := bind_eq_ok_iff.1 h
    cases h
    refine List.forall_mem_cons.2 ⟨⟨node, List.mem_cons_self, hv⟩, fun w hw => ?_⟩
    obtain ⟨n, hn, hvalue⟩ := ih hrest w hw
    exact ⟨n, List.mem_cons_of_mem node hn, hvalue⟩

theorem exists_of_memberValues {depth : Nat} {members : List (Literal × Node)}
    {vs : List (String × Json)} (h : Node.memberValues depth members = .ok vs) :
    ∀ m ∈ vs, ∃ n ∈ members, n.2.value depth = .ok m.2 := by
  induction members generalizing vs with
  | nil =>
    cases h
    simp
  | cons member members ih =>
    obtain ⟨name, -, h⟩ := bind_eq_ok_iff.1 h
    obtain ⟨v, hv, h⟩ := bind_eq_ok_iff.1 h
    obtain ⟨rest, hrest, h⟩ := bind_eq_ok_iff.1 h
    cases h
    refine List.forall_mem_cons.2 ⟨⟨member, List.mem_cons_self, hv⟩, fun w hw => ?_⟩
    obtain ⟨n, hn, hvalue⟩ := ih hrest w hw
    exact ⟨n, List.mem_cons_of_mem member hn, hvalue⟩

theorem isProper_of_value {depth : Nat} {node : Node} {v : Json} (h : node.value depth = .ok v) :
    v.IsProper := by
  induction depth using Nat.strongRecOn generalizing node v with
  | ind depth ih =>
    cases node with
    | null =>
      cases h
      exact .null
    | bool b =>
      cases h
      exact .bool b
    | number n =>
      rw [Node.value] at h
      split_ifs at h
      cases h
      exact .number n
    | text q =>
      obtain ⟨s, -, rfl⟩ := map_eq_ok_iff.1 h
      exact .text s
    | array items ending =>
      cases depth with
      | zero => cases h
      | succ depth =>
        obtain ⟨vs, hvs, h⟩ := bind_eq_ok_iff.1 h
        obtain ⟨-, -, h⟩ := bind_eq_ok_iff.1 h
        cases h
        refine .array fun w hw => ?_
        obtain ⟨node, -, hvalue⟩ := exists_of_values hvs w hw
        exact ih depth (Nat.lt_succ_self depth) hvalue
    | object members ending =>
      cases depth with
      | zero => cases h
      | succ depth =>
        obtain ⟨vs, hvs, h⟩ := bind_eq_ok_iff.1 h
        obtain ⟨-, -, h⟩ := bind_eq_ok_iff.1 h
        cases h
        refine isProper_ofMembers fun m hm => ?_
        obtain ⟨n, -, hvalue⟩ := exists_of_memberValues hvs m hm
        exact ih depth (Nat.lt_succ_self depth) hvalue
    | broken => cases h

/-- A value that has been read has no object with a key twice. -/
theorem isProper_of_ofText {text : List UInt8} {v : Json} (h : ofText text = .ok v) :
    v.IsProper := by
  obtain ⟨value, hvalue, h⟩ := bind_eq_ok_iff.1 h
  split_ifs at h
  cases h
  exact isProper_of_value hvalue

end TxInspect.Json
