import Mathlib.Tactic.Common
import TxInspect.Proofs.Number.Decimal
import TxInspect.Proofs.Text.Pieces
import TxInspect.Report.Grouping

/-!
# Amounts in groups

The digits of an amount are parted into a first group of one to three and other groups of three
(`Groups`), and the amount is shown as these groups with commas between them (`exists_groups`).  So
it starts and ends with a digit, the digits between its commas are three, and the amount is what
is left without the commas (`grouped_pieces`).
-/

namespace TxInspect.Report

/-- Digits in groups: a first one of one to three digits, and others of three. -/
structure Groups where
  first : List Char
  rest : List (List Char)
  first_ne_nil : first ≠ []
  length_first_le : first.length ≤ 3
  length_of_mem_rest : ∀ group ∈ rest, group.length = 3
  isDigit_of_mem : ∀ group ∈ first :: rest, ∀ c ∈ group, c.isDigit = true

namespace Groups

/-- The digits of all groups in one row. -/
def digits (g : Groups) : List Char :=
  (g.first :: g.rest).flatten

/-- The groups with commas between them. -/
def text (g : Groups) : List Char :=
  Text.joined ',' (g.first :: g.rest)

/-- One to three digits as the only group. -/
def single (few : List Char) (nonempty : few ≠ []) (short : few.length ≤ 3)
    (all : ∀ c ∈ few, c.isDigit = true) : Groups where
  first := few
  rest := []
  first_ne_nil := nonempty
  length_first_le := short
  length_of_mem_rest := by simp
  isDigit_of_mem := by simpa using all

/-- Three more digits as a group behind the others. -/
def push (g : Groups) (group : List Char) (three : group.length = 3)
    (all : ∀ c ∈ group, c.isDigit = true) : Groups where
  first := g.first
  rest := g.rest ++ [group]
  first_ne_nil := g.first_ne_nil
  length_first_le := g.length_first_le
  length_of_mem_rest := by
    intro other hother
    rcases List.mem_append.1 hother with hother | hother
    · exact g.length_of_mem_rest other hother
    · rw [List.mem_singleton.1 hother, three]
  isDigit_of_mem := by
    intro other hother
    rw [← List.cons_append] at hother
    rcases List.mem_append.1 hother with hother | hother
    · exact g.isDigit_of_mem other hother
    · rw [List.mem_singleton.1 hother]
      exact all

variable (g : Groups)

theorem digits_push {group : List Char} (three : group.length = 3)
    (all : ∀ c ∈ group, c.isDigit = true) :
    (g.push group three all).digits = g.digits ++ group := by
  simp [digits, push]

theorem text_push {group : List Char} (three : group.length = 3)
    (all : ∀ c ∈ group, c.isDigit = true) :
    (g.push group three all).text = g.text ++ ',' :: group := by
  simp [text, push, Text.joined_cons]

/-! ### Reading the text -/

theorem ne_nil_of_mem : ∀ group ∈ g.first :: g.rest, group ≠ [] := by
  intro group hgroup
  rcases List.mem_cons.1 hgroup with rfl | hgroup
  · exact g.first_ne_nil
  · apply List.ne_nil_of_length_pos
    rw [g.length_of_mem_rest group hgroup]
    omega

theorem comma_notMem : ∀ group ∈ g.first :: g.rest, ',' ∉ group := by
  intro group hgroup hcomma
  exact absurd (g.isDigit_of_mem group hgroup ',' hcomma) (by decide)

theorem pieces_text : Text.pieces ',' g.text = g.first :: g.rest :=
  Text.pieces_joined g.comma_notMem

theorem filter_text : g.text.filter (· ≠ ',') = g.digits :=
  Text.filter_joined g.comma_notMem

theorem isDigit_or_comma {c : Char} (h : c ∈ g.text) : c.isDigit = true ∨ c = ',' := by
  rcases Text.mem_joined h with comma | ⟨group, hgroup, hc⟩
  · exact Or.inr comma
  · exact Or.inl (g.isDigit_of_mem group hgroup c hc)

end Groups

/-! ### Amounts -/

/-- Digits from the last to the first are grouped from the last to the first. -/
theorem exists_groups_fromEnd {digits : List Char} (nonempty : digits ≠ [])
    (all : ∀ c ∈ digits, c.isDigit = true) :
    ∃ g : Groups, g.digits = digits.reverse ∧ g.text = (groupedFromEnd digits).reverse := by
  fun_induction groupedFromEnd digits with
  | case1 x y z w rest ih =>
    obtain ⟨hx, all⟩ := List.forall_mem_cons.1 all
    obtain ⟨hy, all⟩ := List.forall_mem_cons.1 all
    obtain ⟨hz, all⟩ := List.forall_mem_cons.1 all
    obtain ⟨g, hdigits, htext⟩ := ih (by simp) all
    have group : ∀ c ∈ [z, y, x], c.isDigit = true := by simp [hx, hy, hz]
    -- the last digits come first in the recursion, so their group goes behind the others
    refine ⟨g.push [z, y, x] rfl group, ?_, ?_⟩
    · rw [Groups.digits_push, hdigits]
      simp
    · rw [Groups.text_push, htext]
      simp
  | case2 few short =>
    have length : few.length ≤ 3 := by
      match few with
      | [] | [_] | [_, _] | [_, _, _] => simp
      | x :: y :: z :: w :: rest => exact absurd rfl (short x y z w rest)
    refine ⟨.single few.reverse (by simpa using nonempty) (by simpa using length)
      (by simpa using all), ?_, ?_⟩
    · simp [Groups.digits, Groups.single]
    · simp [Groups.text, Groups.single, Text.joined]

/-- An amount is shown as groups of the digits of its decimal text. -/
theorem exists_groups (n : Nat) :
    ∃ g : Groups, g.digits = (toString n).toList ∧ g.text = (grouped n).toList := by
  have nonempty : (Decimal.text n).toList ≠ [] := by
    simpa using Decimal.text_ne_empty n
  have all : ∀ c ∈ (Decimal.text n).toList.reverse, c.isDigit = true := by
    intro c hc
    exact Decimal.isDigit_of_mem_text (List.mem_reverse.1 hc)
  obtain ⟨g, hdigits, htext⟩ := exists_groups_fromEnd (List.reverse_ne_nil_iff.2 nonempty) all
  refine ⟨g, ?_, ?_⟩
  · rw [hdigits, List.reverse_reverse, Decimal.text_eq_toString]
  · rw [htext, grouped, groupedDigits, String.toList_ofList]

theorem isDigit_or_comma_of_mem_grouped {n : Nat} {c : Char} (h : c ∈ (grouped n).toList) :
    c.isDigit = true ∨ c = ',' := by
  obtain ⟨g, -, text⟩ := exists_groups n
  rw [← text] at h
  exact g.isDigit_or_comma h

theorem filter_grouped (n : Nat) :
    (grouped n).toList.filter (· ≠ ',') = (toString n).toList := by
  obtain ⟨g, digits, text⟩ := exists_groups n
  rw [← text, ← digits, g.filter_text]

theorem grouped_injective : Function.Injective grouped := by
  intro m n h
  apply Decimal.text_injective
  rw [Decimal.text_eq_toString, Decimal.text_eq_toString, ← String.toList_inj, ← filter_grouped,
    ← filter_grouped, h]

/-- An amount is shown in ASCII digits and commas, a comma neither first nor last: one to three
digits, and three digits behind each comma.  Its decimal text is left without the commas, so no
other amount is shown like it. -/
theorem grouped_pieces (n : Nat) :
    (∀ c ∈ (grouped n).toList, c.isDigit = true ∨ c = ',') ∧
    (grouped n).toList.filter (· ≠ ',') = (toString n).toList ∧
    (grouped n).toList.head? ≠ some ',' ∧ (grouped n).toList.getLast? ≠ some ',' ∧
    (∃ first rest, Text.pieces ',' (grouped n).toList = first :: rest ∧
      1 ≤ first.length ∧ first.length ≤ 3 ∧ ∀ group ∈ rest, group.length = 3) ∧
    ∀ m, m ≠ n → grouped m ≠ grouped n := by
  obtain ⟨g, -, text⟩ := exists_groups n
  refine ⟨fun c => isDigit_or_comma_of_mem_grouped, filter_grouped n, ?_, ?_, ?_, ?_⟩
  · rw [← text]
    exact Text.head?_joined_ne g.ne_nil_of_mem g.comma_notMem
  · rw [← text]
    exact Text.getLast?_joined_ne g.ne_nil_of_mem g.comma_notMem
  · refine ⟨g.first, g.rest, ?_, ?_, g.length_first_le, g.length_of_mem_rest⟩
    · rw [← text, g.pieces_text]
    · exact List.length_pos_iff.2 g.first_ne_nil
  · intro m hm same
    exact hm (grouped_injective same)

theorem grouped_pieces_sample :
    grouped 123456 = "123,456" ∧ ('6' ∈ "123,456".toList ∧ ('6'.isDigit = true ∨ '6' = ',')) ∧
    "123,456".toList.filter (· ≠ ',') = (toString 123456).toList ∧
    (∃ first rest, Text.pieces ',' "123,456".toList = first :: rest ∧ 1 ≤ first.length ∧
      first.length ≤ 3 ∧ ['4', '5', '6'] ∈ rest ∧ ['4', '5', '6'].length = 3) ∧
    (23456 ≠ 123456 ∧ grouped 23456 ≠ "123,456") := by
  have shown : grouped 123456 = "123,456" := by decide
  obtain ⟨digits, without, -, -, ⟨first, rest, parts, pos, le, three⟩, different⟩ :=
    grouped_pieces 123456
  rw [shown] at digits without parts different
  have own : ['4', '5', '6'] ∈ rest := by
    have parted : first :: rest = [['1', '2', '3'], ['4', '5', '6']] := parts.symm.trans (by decide)
    rw [(List.cons.inj parted).2]
    exact List.mem_singleton_self _
  exact ⟨shown, ⟨by decide, digits '6' (by decide)⟩, without,
    ⟨first, rest, parts, pos, le, own, three _ own⟩, by decide, different 23456 (by decide)⟩

end TxInspect.Report
