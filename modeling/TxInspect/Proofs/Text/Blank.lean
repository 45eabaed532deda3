import Mathlib.Tactic.Common
import TxInspect.Text.Blank

/-!
# White space around a text

White space around a text that holds none is dropped, and nothing else (`trim_append`).  Every text
loses all white space at its end (`isTrimmedEnd_trimEnd`), and begins with its first other character
once the white space at its start is dropped (`head?_trimStart`).
-/

namespace TxInspect.Text

theorem dropWhile_isBlank {cs : List Char} (h : ∀ c ∈ cs, isBlank c = false) :
    cs.dropWhile isBlank = cs := by
  cases cs with
  | nil => rfl
  | cons c cs => rw [List.dropWhile_cons, h c List.mem_cons_self, if_neg Bool.false_ne_true]

theorem trimStart_append {before : List Char} (h : isBlankText before = true) (cs : List Char) :
    trimStart (before ++ cs) = trimStart cs :=
  List.dropWhile_append_of_pos (List.all_eq_true.1 h)

theorem trimEnd_append {after : List Char} (h : isBlankText after = true) (cs : List Char) :
    trimEnd (cs ++ after) = trimEnd cs := by
  have back : ∀ c ∈ after.reverse, isBlank c = true := fun c hc =>
    List.all_eq_true.1 h c (List.mem_reverse.1 hc)
  rw [trimEnd, List.reverse_append, List.dropWhile_append_of_pos back, trimEnd]

/-- The second text is the first one without the white space that it ends with. -/
def IsTrimmedEnd (cs shown : List Char) : Prop :=
  ∃ after, cs = shown ++ after ∧ (∀ c ∈ after, isBlank c = true) ∧
    ∀ c ∈ shown.getLast?, isBlank c = false

theorem isTrimmedEnd_trimEnd (cs : List Char) : IsTrimmedEnd cs (trimEnd cs) := by
  refine ⟨(cs.reverse.takeWhile isBlank).reverse, ?_, ?_, ?_⟩
  · rw [trimEnd, ← List.reverse_append, List.takeWhile_append_dropWhile, List.reverse_reverse]
  · intro c hc
    exact List.all_eq_true.1 List.all_takeWhile c (List.mem_reverse.1 hc)
  · intro c hc
    have last := List.head?_dropWhile_not isBlank cs.reverse
    rw [trimEnd, List.getLast?_reverse, Option.mem_def] at hc
    rw [hc] at last
    simpa using last

/-- The first character that is no white space is the first one that is left. -/
theorem head?_trimStart {before : List Char} (h : ∀ c ∈ before, isBlank c = true) {c : Char}
    (hc : isBlank c = false) (cs : List Char) : (trimStart (before ++ c :: cs)).head? = some c := by
  rw [trimStart_append (List.all_eq_true.2 h), trimStart, List.dropWhile_cons, hc,
    if_neg Bool.false_ne_true]
  rfl

/-- White space around a text that holds none is dropped. -/
theorem trim_append {before cs after : List Char} (hbefore : isBlankText before = true)
    (hafter : isBlankText after = true) (h : ∀ c ∈ cs, isBlank c = false) :
    trim (before ++ cs ++ after) = cs := by
  have back : ∀ c ∈ cs.reverse, isBlank c = false := fun c hc => h c (List.mem_reverse.1 hc)
  have text : trimEnd cs = cs := by
    rw [trimEnd, dropWhile_isBlank back, List.reverse_reverse]
  rw [trim, List.append_assoc, trimStart_append hbefore]
  cases cs with
  | nil =>
    rw [List.nil_append, trimStart_eq_nil_iff.2 hafter]
    rfl
  | cons c cs =>
    have front : trimStart (c :: cs ++ after) = c :: cs ++ after := by
      rw [trimStart, List.cons_append, List.dropWhile_cons, h c List.mem_cons_self,
        if_neg Bool.false_ne_true]
    rw [front, trimEnd_append hafter, text]

end TxInspect.Text
