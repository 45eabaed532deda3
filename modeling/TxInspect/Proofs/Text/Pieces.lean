import Mathlib.Data.List.Forall2
import Mathlib.Tactic.Common
import TxInspect.Text.Pieces

/-!
# Cutting what has been joined

Pieces are what the library's `List.splitOn` gives (`pieces_eq_splitOn`).  Pieces that hold no
separator come out of their join again (`pieces_joined`), and each of them is shorter than the join
(`length_add_length_lt_joined`).  Without its separators the join is the pieces in one row
(`filter_joined`); it neither starts nor ends with a separator if no piece is empty
(`head?_joined_ne`, `getLast?_joined_ne`).
-/

namespace TxInspect.Text

variable {α : Type} [DecidableEq α] {sep : α}

theorem cutInto_of_ne {x : α} (h : x ≠ sep) (p : List α) (ps : List (List α)) :
    cutInto sep x (p :: ps) = (x :: p) :: ps := by
  rw [cutInto, if_neg h]

theorem pieces_sep_cons (xs : List α) : pieces sep (sep :: xs) = [] :: pieces sep xs := by
  rw [pieces_cons]
  cases h : pieces sep xs with
  | nil => exact absurd h (pieces_ne_nil sep xs)
  | cons p ps => rw [cutInto, if_pos rfl]

theorem pieces_eq_splitOn (sep : α) (xs : List α) : pieces sep xs = xs.splitOn sep := by
  induction xs with
  | nil => rfl
  | cons x xs ih =>
    rw [pieces_cons, List.splitOn_cons_eq_if_modifyHead, ← ih]
    cases h : pieces sep xs with
    | nil => exact absurd h (pieces_ne_nil sep xs)
    | cons p ps => by_cases hx : x = sep <;> simp [cutInto, hx]

theorem pieces_of_notMem {xs : List α} (h : sep ∉ xs) : pieces sep xs = [xs] := by
  induction xs with
  | nil => rfl
  | cons x xs ih =>
    rw [List.mem_cons, not_or] at h
    rw [pieces_cons, ih h.2, cutInto_of_ne (Ne.symm h.1)]

theorem pieces_append {p : List α} (h : sep ∉ p) (xs : List α) :
    pieces sep (p ++ sep :: xs) = p :: pieces sep xs := by
  induction p with
  | nil => exact pieces_sep_cons xs
  | cons x p ih =>
    rw [List.mem_cons, not_or] at h
    rw [List.cons_append, pieces_cons, ih h.2, cutInto_of_ne (Ne.symm h.1)]

/-- Pieces without separators are found again in their join. -/
theorem pieces_joined {p : List α} {ps : List (List α)} (h : ∀ q ∈ p :: ps, sep ∉ q) :
    pieces sep (joined sep (p :: ps)) = p :: ps := by
  induction ps generalizing p with
  | nil => exact pieces_of_notMem (h p List.mem_cons_self)
  | cons q ps ih =>
    rw [joined, pieces_append (h p List.mem_cons_self),
      ih fun r hr => h r (List.mem_cons_of_mem p hr)]

theorem notMem_of_mem_pieces {xs q : List α} (h : q ∈ pieces sep xs) : sep ∉ q := by
  induction xs generalizing q with
  | nil => simp_all
  | cons x xs ih =>
    rw [pieces_cons] at h
    cases hpieces : pieces sep xs with
    | nil => exact absurd hpieces (pieces_ne_nil sep xs)
    | cons p ps =>
      rw [hpieces] at h ih
      by_cases hx : x = sep
      · rw [cutInto, if_pos hx] at h
        rcases List.mem_cons.1 h with rfl | h
        · exact List.not_mem_nil
        · exact ih h
      · rw [cutInto_of_ne hx] at h
        rcases List.mem_cons.1 h with rfl | h
        · rw [List.mem_cons, not_or]
          exact ⟨Ne.symm hx, ih List.mem_cons_self⟩
        · exact ih (List.mem_cons_of_mem p h)

/-- Lists that are alike are cut into pieces that are alike, if nothing else is like a separator. -/
theorem forall₂_pieces {R : α → α → Prop} (hR : ∀ x y, R x y → (x = sep ↔ y = sep))
    {xs ys : List α} (h : List.Forall₂ R xs ys) :
    List.Forall₂ (List.Forall₂ R) (pieces sep xs) (pieces sep ys) := by
  induction h with
  | nil => exact .cons .nil .nil
  | @cons x y xs ys first _ ih =>
    by_cases hx : x = sep
    · have hy := (hR x y first).1 hx
      subst hx hy
      rw [pieces_sep_cons, pieces_sep_cons]
      exact .cons .nil ih
    · rw [pieces_cons, pieces_cons]
      cases hp : pieces sep xs with
      | nil => exact absurd hp (pieces_ne_nil sep xs)
      | cons p ps =>
        rw [hp] at ih
        cases hq : pieces sep ys with
        | nil => exact absurd hq (pieces_ne_nil sep ys)
        | cons q qs =>
          rw [hq] at ih
          obtain _ | ⟨hpq, hrest⟩ := ih
          rw [cutInto_of_ne hx, cutInto_of_ne fun hy => hx ((hR x y first).2 hy)]
          exact .cons (.cons first hpq) hrest

omit [DecidableEq α] in
/-- A join is its first piece, and each of the others behind a separator. -/
theorem joined_cons (sep : α) (p : List α) (ps : List (List α)) :
    joined sep (p :: ps) = p ++ ps.flatMap (sep :: ·) := by
  induction ps generalizing p with
  | nil => simp [joined]
  | cons q ps ih => rw [joined, ih, List.flatMap_cons, List.cons_append]

omit [DecidableEq α] in
theorem mem_joined {x : α} {ps : List (List α)} (h : x ∈ joined sep ps) :
    x = sep ∨ ∃ p ∈ ps, x ∈ p := by
  fun_induction joined sep ps with
  | case1 => cases h
  | case2 p => exact Or.inr ⟨p, List.mem_singleton_self p, h⟩
  | case3 p q ps ih =>
    rcases List.mem_append.1 h with h | h
    · exact Or.inr ⟨p, List.mem_cons_self, h⟩
    rcases List.mem_cons.1 h with rfl | h
    · exact Or.inl rfl
    apply (ih h).imp_right
    rintro ⟨r, hr, hx⟩
    exact ⟨r, List.mem_cons_of_mem p hr, hx⟩

/-- A join without its separators is its pieces in one row. -/
theorem filter_joined {ps : List (List α)} (h : ∀ p ∈ ps, sep ∉ p) :
    (joined sep ps).filter (· ≠ sep) = ps.flatten := by
  have kept : ∀ p ∈ ps, p.filter (· ≠ sep) = p := by
    intro p hp
    apply List.filter_eq_self.2
    intro x hx
    simpa using ne_of_mem_of_not_mem hx (h p hp)
  fun_induction joined sep ps with
  | case1 => rfl
  | case2 p => simpa using kept p
  | case3 p q ps ih =>
    have rest := ih (fun r hr => h r (List.mem_cons_of_mem p hr))
      fun r hr => kept r (List.mem_cons_of_mem p hr)
    rw [List.flatten_cons, List.filter_append, kept p List.mem_cons_self,
      List.filter_cons_of_neg (by simp), rest]

omit [DecidableEq α] in
theorem head?_joined_ne {ps : List (List α)} (nonempty : ∀ p ∈ ps, p ≠ [])
    (h : ∀ p ∈ ps, sep ∉ p) : (joined sep ps).head? ≠ some sep := by
  cases ps with
  | nil => simp [joined]
  | cons p ps =>
    rw [joined_cons, List.head?_append_of_ne_nil p (nonempty p List.mem_cons_self)]
    intro first
    exact h p List.mem_cons_self (List.mem_of_head? first)

omit [DecidableEq α] in
theorem getLast?_joined_ne {ps : List (List α)} (nonempty : ∀ p ∈ ps, p ≠ [])
    (h : ∀ p ∈ ps, sep ∉ p) : (joined sep ps).getLast? ≠ some sep := by
  fun_induction joined sep ps with
  | case1 => simp
  | case2 p =>
    intro last
    exact h p List.mem_cons_self (List.mem_of_getLast? last)
  | case3 p q ps ih =>
    have more : joined sep (q :: ps) ≠ [] := by
      rw [joined_cons]
      simp [nonempty q]
    rw [List.getLast?_append_of_ne_nil p (by simp), List.getLast?_cons_of_ne_nil more]
    exact ih (fun r hr => nonempty r (List.mem_cons_of_mem p hr))
      fun r hr => h r (List.mem_cons_of_mem p hr)

omit [DecidableEq α] in
/-- A piece after the first is shorter than the join by the first piece at least. -/
theorem length_add_length_lt_joined (sep : α) (p : List α) {q : List α} {ps : List (List α)}
    (h : q ∈ ps) : p.length + q.length < (joined sep (p :: ps)).length := by
  induction ps generalizing p with
  | nil => cases h
  | cons r ps ih =>
    rw [joined, List.length_append, List.length_cons]
    rcases List.mem_cons.1 h with rfl | h
    · cases ps with
      | nil => simp only [joined]; omega
      | cons s ps =>
        simp only [joined, List.length_append]
        omega
    · have := ih r h
      omega

/-- The pieces of a list are made of its elements. -/
theorem subset_of_mem_pieces {xs p : List α} (h : p ∈ pieces sep xs) : p ⊆ xs := by
  have whole := joined_pieces sep xs
  cases hpieces : pieces sep xs with
  | nil => exact absurd hpieces (pieces_ne_nil sep xs)
  | cons q qs =>
    rw [hpieces] at h whole
    rw [← whole, joined_cons]
    intro x hx
    rcases List.mem_cons.1 h with rfl | h
    · exact List.mem_append_left _ hx
    · exact List.mem_append_right _ (List.mem_flatMap.2 ⟨p, h, List.mem_cons_of_mem sep hx⟩)

end TxInspect.Text
