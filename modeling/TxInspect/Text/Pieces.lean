/-!
# Pieces between separators

`pieces sep xs` cuts a list at every `sep`: one piece more than there are separators, empty pieces
kept. `joined sep` puts the pieces together again (`joined_pieces`).
-/

namespace TxInspect.Text

variable {α : Type} [DecidableEq α]

/-- Puts one more element in front of the pieces: a separator starts a new piece. -/
def cutInto (sep : α) (x : α) : List (List α) → List (List α)
  | [] => if x = sep then [[], []] else [[x]]
  | p :: ps => if x = sep then [] :: p :: ps else (x :: p) :: ps

/-- The pieces of a list between its separators. -/
def pieces (sep : α) (xs : List α) : List (List α) :=
  xs.foldr (cutInto sep) [[]]

omit [DecidableEq α] in
/-- The pieces in order, with a separator before each but the first. -/
def joined (sep : α) : List (List α) → List α
  | [] => []
  | [p] => p
  | p :: q :: ps => p ++ sep :: joined sep (q :: ps)

@[simp] theorem pieces_nil (sep : α) : pieces sep [] = [[]] := rfl

theorem pieces_cons (sep x : α) (xs : List α) :
    pieces sep (x :: xs) = cutInto sep x (pieces sep xs) := rfl

theorem pieces_ne_nil (sep : α) (xs : List α) : pieces sep xs ≠ [] := by
  cases xs with
  | nil => simp
  | cons x xs =>
    rw [pieces_cons]
    cases pieces sep xs <;> by_cases h : x = sep <;> simp [cutInto, h]

theorem joined_pieces (sep : α) (xs : List α) : joined sep (pieces sep xs) = xs := by
  induction xs with
  | nil => rfl
  | cons x xs ih =>
    rw [pieces_cons]
    cases h : pieces sep xs with
    | nil => exact absurd h (pieces_ne_nil sep xs)
    | cons p ps =>
      rw [h] at ih
      by_cases hx : x = sep
      · subst hx
        simp [cutInto, joined, ih]
      · cases ps with
        | nil => simpa [cutInto, hx, joined] using ih
        | cons q qs => simpa [cutInto, hx, joined] using ih

end TxInspect.Text
