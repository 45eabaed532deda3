import Mathlib.Tactic.Common
import TxInspect.Proofs.Transaction.Calls
import TxInspect.Report

/-!
# Reports can be laid out

Laying out a report cuts its long arguments in the middle of their bytes, and cannot be done where a
cut falls inside a character.  An ASCII argument can be cut anywhere (`shortened?_of_lt`), so that
such arguments have a table (`argumentTable?_of_lt`), and a report whose arguments are hexadecimal
always has a text, in whichever way tables are drawn (`exists_renderWith?_metadata`).
-/

namespace TxInspect.Report

/-! ### Styled text -/

namespace Styled

theorem render_append (s t : Styled) (color : Bool) :
    Styled.render (s ++ t) color = s.render color ++ t.render color := by
  rw [← String.toList_inj, String.toList_append]
  cases color <;> simp [render, plain, colored]

theorem render_ofText (text : String) (color : Bool) :
    (Styled.ofText text).render color = text := by
  rw [← String.toList_inj]
  cases color <;> simp [render, plain, colored, ofText, Span.colored]

end Styled

/-! ### Arguments -/

variable {arg : String} {args : List String} (draw : Table → String)

theorem takeBytes?_of_lt {n : Nat} {cs : List Char} (ascii : ∀ c ∈ cs, c.toNat < 0x80)
    (enough : n ≤ cs.length) : takeBytes? n cs = some (cs.take n) := by
  induction n generalizing cs with
  | zero => rw [takeBytes?, List.take_zero]
  | succ n ih =>
    cases cs with
    | nil => exact absurd enough (by simp)
    | cons c cs =>
      have one : c.utf8Size = 1 :=
        Char.utf8Size_eq_one_iff.2 (Nat.le_of_lt_succ (ascii c List.mem_cons_self))
      have rest := ih (fun d hd => ascii d (List.mem_cons_of_mem c hd))
        (Nat.le_of_succ_le_succ enough)
      rw [takeBytes?, one, if_pos (Nat.le_add_left 1 n), Nat.add_sub_cancel, rest]
      rfl

/-- An argument as it is shown: a long one shows the characters at its two ends. -/
def shownForm (arg : String) : String :=
  if arg.toList.length ≤ maxArgumentBytes then arg
  else String.ofList (arg.toList.take shownBytes ++ ['.', '.', '.'] ++
    arg.toList.drop (arg.toList.length - shownBytes))

/-- An ASCII argument can be cut anywhere. -/
theorem shortened?_of_lt (ascii : ∀ c ∈ arg.toList, c.toNat < 0x80) :
    shortened? arg = some (shownForm arg) := by
  rw [shortened?, shownForm, Utf8.length_encode_of_lt ascii]
  by_cases short : arg.toList.length ≤ maxArgumentBytes
  · rw [if_pos short, if_pos short]
  · have enough : shownBytes ≤ arg.toList.length := by
      simp only [maxArgumentBytes, shownBytes] at short ⊢
      omega
    have first := takeBytes?_of_lt ascii enough
    have last : takeBytes? shownBytes arg.toList.reverse =
        some (arg.toList.reverse.take shownBytes) :=
      takeBytes?_of_lt (fun c hc => ascii c (List.mem_reverse.1 hc)) (by rwa [List.length_reverse])
    rw [if_neg short, if_neg short, first, last, List.take_reverse]
    simp only [bind, Option.bind, List.reverse_reverse]
    rfl

/-- The cells for an argument, in which it is shown in this form. -/
def shownRow (index : Nat) (arg : String) : List Cell :=
  [.ofText (toString index), .ofText (shownForm arg), .ofText ((printable? arg).getD "")]

theorem argumentRow?_of_lt (ascii : ∀ c ∈ arg.toList, c.toNat < 0x80) (index : Nat) :
    argumentRow? index arg = some (shownRow index arg) := by
  rw [argumentRow?, shortened?_of_lt ascii]
  rfl

theorem mapM_eq_some_map {α β : Type} {f : α → Option β} {g : α → β} {as : List α}
    (h : ∀ a ∈ as, f a = some (g a)) : as.mapM f = some (as.map g) := by
  induction as with
  | nil => rfl
  | cons a as ih =>
    rw [List.mapM_cons, h a List.mem_cons_self, ih fun b hb => h b (List.mem_cons_of_mem a hb)]
    rfl

/-- Arguments that can be cut anywhere have a table. -/
theorem argumentTable?_of_lt (ascii : ∀ arg ∈ args, ∀ c ∈ arg.toList, c.toNat < 0x80) :
    argumentTable? args = some ⟨["#", "Hex", "Text"].map .ofText,
      args.zipIdx.map fun row => shownRow row.2 row.1⟩ := by
  have rows : ∀ row ∈ args.zipIdx, argumentRow? row.2 row.1 = some (shownRow row.2 row.1) :=
    fun row hrow => argumentRow?_of_lt (ascii row.1 (List.fst_mem_of_mem_zipIdx hrow)) row.2
  rw [argumentTable?]
  change (args.zipIdx.mapM (fun row => argumentRow? row.2 row.1) >>= _) = _
  rw [mapM_eq_some_map rows]
  rfl

theorem exists_argumentSection? (ascii : ∀ arg ∈ args, ∀ c ∈ arg.toList, c.toNat < 0x80) :
    ∃ styled, argumentSection? draw args = some styled := by
  unfold argumentSection?
  by_cases none : args = []
  · rw [if_pos none]
    exact ⟨_, rfl⟩
  · rw [if_neg none, argumentTable?_of_lt ascii]
    exact ⟨_, rfl⟩

/-! ### Whole reports -/

variable {m : Metadata}

theorem exists_ofMetadata? (hex : ∀ args ∈ m.functionArgs, ∀ arg ∈ args, Hex.IsRun arg.toList) :
    ∃ styled, ofMetadata? draw m = some styled := by
  obtain ⟨call, hcall⟩ : ∃ styled, callSection? draw m = some styled := by
    unfold callSection?
    cases hm : m.call? with
    | none => exact ⟨_, rfl⟩
    | some call =>
      obtain ⟨function, args⟩ := call
      have own := (Transaction.call?_eq_some_iff.1 hm).2
      obtain ⟨arguments, harguments⟩ := exists_argumentSection? draw fun arg harg c hc =>
        ((hex args own arg harg).2 c hc).toNat_lt
      dsimp only
      rw [harguments]
      exact ⟨_, rfl⟩
  rw [ofMetadata?, hcall]
  exact ⟨_, rfl⟩

/-- A description with hexadecimal arguments has a text in every layout. -/
theorem exists_renderWith?_metadata
    (hex : ∀ args ∈ m.functionArgs, ∀ arg ∈ args, Hex.IsRun arg.toList) (layout : Layout) :
    ∃ text, renderWith? draw (.metadata m) layout = some text := by
  obtain ⟨styled, hstyled⟩ := exists_ofMetadata? draw hex
  unfold renderWith?
  split_ifs
  · exact ⟨_, rfl⟩
  · rw [styled?, hstyled]
    exact ⟨_, rfl⟩

end TxInspect.Report
