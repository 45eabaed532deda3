import Mathlib.Tactic.Common
import TxInspect.Proofs.Json.Numerals

/-!
# A text inside another one

The machine reads a text in the same way inside arrays and objects as by itself, up to the end of
its value: one step keeps the frames around it as they are (`State.Inside.step`), and so does the
whole text.  So a text that states a value which does not break off is this value wherever a value
may stand (`foldl_of_scan`).
-/

namespace TxInspect.Json

/-- The value breaks off at its end. -/
def Node.BreaksOff : Node → Prop
  | .array _ ending | .object _ ending => ending ≠ none
  | .broken _ => True
  | _ => False

theorem breaksOff_breakOff (fs : List Frame) (task : Task) (b : Break) :
    (breakOff fs task b).BreaksOff := by
  have frames : ∀ node : Node, node.BreaksOff →
      (fs.foldl (fun value frame => frame.breakOff value b) node).BreaksOff := by
    induction fs with
    | nil => exact fun node h => h
    | cons f fs ih =>
      refine fun node _ => ih (f.breakOff node b) ?_
      cases f <;> exact Option.some_ne_none b
  refine frames _ ?_
  cases task <;> first | exact Option.some_ne_none b | trivial

/-- A state of the machine by itself, and one inside `around`.  Once the machine has stopped by
itself, it may go on inside. -/
inductive State.Inside (around : List Frame) : State → State → Prop where
  | reading (fs : List Frame) (task : Task) :
    State.Inside around (.reading fs task) (.reading (fs ++ around) task)
  | done (root : Node) : State.Inside around (.done root) (afterValue root around)
  | stopped {root : Node} {isAfter : Bool} (h : isAfter = true ∨ root.BreaksOff) (s : State) :
    State.Inside around (.stopped root isAfter) s

namespace State

variable {around : List Frame}

/-! ### Steps -/

theorem inside_stop (fs : List Frame) (task : Task) (s : State) : (stop fs task).Inside around s :=
  .stopped (Or.inr (breaksOff_breakOff fs task _)) s

theorem inside_afterValue (value : Node) (fs : List Frame) :
    (afterValue value fs).Inside around (afterValue value (fs ++ around)) := by
  match fs with
  | [] => exact .done value
  | .item before :: fs => exact .reading fs _
  | .member before name :: fs => exact .reading fs _

theorem inside_startValue (fs : List Frame) (b : UInt8) :
    (startValue fs b).Inside around (startValue (fs ++ around) b) := by
  unfold startValue
  split
  · exact .reading fs _
  · split
    · exact .reading fs _
    · exact .reading fs _
    · exact .reading fs _
    · exact .reading fs _
    · exact .reading fs _
    · exact .reading fs _
    · exact .reading fs _
    · exact inside_stop fs _ _

theorem inside_stepBetween (fs : List Frame) (b : UInt8) (task : Task) :
    (stepBetween fs b task).Inside around (stepBetween (fs ++ around) b task) := by
  unfold stepBetween
  split
  · next before =>
    split_ifs
    · exact .reading (.item before :: fs) _
    · exact inside_afterValue _ fs
    · exact inside_stop fs _ _
  · next before =>
    split_ifs
    · exact .reading fs _
    · exact inside_afterValue _ fs
    · exact inside_stop fs _ _
  · exact inside_stop fs _ _

theorem inside_stepMark (fs : List Frame) (b : UInt8) (task : Task) :
    (stepMark fs b task).Inside around (stepMark (fs ++ around) b task) := by
  unfold stepMark
  split
  · exact inside_startValue fs b
  · split_ifs
    · exact inside_afterValue _ fs
    · exact inside_startValue (.item [] :: fs) b
  · split_ifs
    · exact .reading fs _
    · exact inside_afterValue _ fs
    · exact inside_stop fs _ _
  · split_ifs
    · exact .reading fs _
    · exact inside_stop fs _ _
  · next before name =>
    split_ifs
    · exact .reading (.member before name :: fs) _
    · exact inside_stop fs _ _
  · exact inside_stepBetween fs b _

theorem Inside.stepAfter {s t : State} (h : s.Inside around t) (b : UInt8) :
    (stepAfter s b).Inside around (stepAfter t b) := by
  unfold State.stepAfter
  split_ifs
  · exact h
  · cases h with
    | reading fs task => exact inside_stepBetween fs b task
    | done root => exact .stopped (Or.inl rfl) _
    | stopped h s => exact .stopped h _

theorem inside_stepReading (fs : List Frame) (b : UInt8) (task : Task) :
    (stepReading fs b task).Inside around (stepReading (fs ++ around) b task) := by
  unfold stepReading
  split
  · split
    · exact .reading fs _
    · exact .reading fs _
    · exact inside_stop fs _ _
  · split
    · exact .reading fs _
    · exact inside_afterValue _ fs
    · exact inside_stop fs _ _
  · split
    · exact .reading fs _
    · exact (inside_afterValue _ fs).stepAfter b
    · exact inside_stop fs _ _
  · split_ifs
    · exact inside_stop fs _ _
    · split
      · exact inside_afterValue _ fs
      · exact .reading fs _
  · split_ifs
    · exact .reading fs _
    · exact inside_stepMark fs b _

theorem step_afterValue (value : Node) (around : List Frame) (b : UInt8) :
    (afterValue value around).step b = State.stepAfter (afterValue value around) b := by
  match around with
  | [] => rfl
  | .item before :: around => rfl
  | .member before name :: around => rfl

theorem Inside.step {s t : State} (h : s.Inside around t) (b : UInt8) :
    (s.step b).Inside around (t.step b) := by
  cases h with
  | reading fs task => exact inside_stepReading fs b task
  | done root =>
    by_cases space : isSpace b = true
    · have stays : (State.done root).step b = .done root := if_pos space
      have goesOn : State.stepAfter (afterValue root around) b = afterValue root around :=
        if_pos space
      rw [stays, step_afterValue, goesOn]
      exact .done root
    · have stops : (State.done root).step b = .stopped root true := if_neg space
      rw [stops]
      exact .stopped (Or.inl rfl) _
  | stopped h s => exact .stopped h _

theorem Inside.foldl {s t : State} (h : s.Inside around t) (text : List UInt8) :
    (text.foldl State.step s).Inside around (text.foldl State.step t) := by
  induction text generalizing s t with
  | nil => exact h
  | cons b bs ih => exact ih (h.step b)

/-! ### Whole values -/

/-- A value that is still being read at the end of a text is a number, or it breaks off. -/
theorem exists_number_of_finish {fs : List Frame} {task : Task} {node : Node}
    (h : (State.reading fs task).finish = ⟨node, false⟩) (whole : ¬ node.BreaksOff) :
    ∃ n : PartialNumeral, task = .number n ∧ fs = [] ∧ n.isWhole = true ∧
      node = .number n.numeral := by
  have broken : ∀ fs task, State.endReading fs task ≠ ⟨node, false⟩ := by
    intro fs task end_eq
    cases end_eq
    exact whole (breaksOff_breakOff fs task _)
  cases task with
  | number n =>
    rw [finish_number] at h
    split_ifs at h with ends
    · match fs with
      | [] =>
        cases h
        exact ⟨n, rfl, rfl, ends, rfl⟩
      | .item before :: fs => exact absurd h (broken fs _)
      | .member before name :: fs => exact absurd h (broken fs _)
    · exact absurd h (broken fs _)
  | _ => exact absurd h (broken fs _)

end State

/-- A text by itself is the same value inside arrays and objects, if it does not break off. -/
theorem foldl_of_scan {text : List UInt8} {node : Node} (h : scan text = ⟨node, false⟩)
    (whole : ¬ node.BreaksOff) (around : List Frame) {b : UInt8} (ends : EndsMember b)
    (rest : List UInt8) : (text ++ b :: rest).foldl State.step (.reading around .value) =
      (b :: rest).foldl State.step (State.afterValue node around) := by
  have inside : (text.foldl State.step .start).Inside around
      (text.foldl State.step (.reading around .value)) :=
    State.Inside.foldl (.reading [] .value) text
  rw [scan] at h
  rw [List.foldl_append]
  generalize text.foldl State.step .start = s at h inside
  generalize text.foldl State.step (.reading around .value) = t at inside
  cases inside with
  | reading fs task =>
    obtain ⟨n, rfl, rfl, finished, rfl⟩ := State.exists_number_of_finish h whole
    have step : (State.reading ([] ++ around) (.number n)).step b =
        (State.afterValue (.number n.numeral) around).step b := by
      rw [State.step_afterValue, State.step, State.stepReading]
      simp only [PartialNumeral.step_of_isWhole finished ends, List.nil_append]
    rw [List.foldl_cons, List.foldl_cons, step]
  | done root =>
    cases h
    rfl
  | stopped broken t =>
    cases h
    exact absurd broken (by simpa using whole)

end TxInspect.Json
