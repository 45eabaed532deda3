import Mathlib.Tactic.Common
import TxInspect.Json.Machine

/-!
# Members in front of others

The machine goes on in the same way whatever the members are that it has read of the outermost
object: one step keeps them below all that is read later (`State.Extends.step`), and so does the
rest of a text.  So the members behind a place do not depend on those in front of it
(`exists_members`).
-/

namespace TxInspect.Json

variable {base : List (Literal × Node)}

/-- The same frames with `base` in front of the members of the outermost object. -/
inductive FramesExtend (base : List (Literal × Node)) : List Frame → List Frame → Prop where
  | outermost (before : List (Literal × Node)) (name : Literal) :
    FramesExtend base [.member before name] [.member (before ++ base) name]
  | cons (f : Frame) {around wider : List Frame} (h : FramesExtend base around wider) :
    FramesExtend base (f :: around) (f :: wider)

/-- The same task in an object, with `base` in front of the members. -/
inductive Task.Extends (base : List (Literal × Node)) : Task → Task → Prop where
  | key (before : List (Literal × Node)) :
    Task.Extends base (.key before) (.key (before ++ base))
  | nextMember (before : List (Literal × Node)) :
    Task.Extends base (.nextMember before) (.nextMember (before ++ base))
  | colon (before : List (Literal × Node)) (name : Literal) :
    Task.Extends base (.colon before name) (.colon (before ++ base) name)
  | keyText (before : List (Literal × Node)) (q : PartialLiteral) :
    Task.Extends base (.keyText before q) (.keyText (before ++ base) q)

/-- The same state with `base` in front of the members of the outermost object. -/
inductive State.Extends (base : List (Literal × Node)) : State → State → Prop where
  | between {task wider : Task} (h : task.Extends base wider) :
    State.Extends base (.reading [] task) (.reading [] wider)
  | inside {around wider : List Frame} (h : FramesExtend base around wider) (task : Task) :
    State.Extends base (.reading around task) (.reading wider task)
  | done (members : List (Literal × Node)) :
    State.Extends base (.done (.object members none))
      (.done (.object (base.reverse ++ members) none))
  | stopped (members : List (Literal × Node)) (ending : Option Break) (isAfter : Bool) :
    State.Extends base (.stopped (.object members ending) isAfter)
      (.stopped (.object (base.reverse ++ members) ending) isAfter)

/-! ### Breaking off -/

theorem Task.Extends.breakOff_eq {task wider : Task} (h : task.Extends base wider) (b : Break) :
    ∃ members, task.breakOff b = .object members (some b) ∧
      wider.breakOff b = .object (base.reverse ++ members) (some b) := by
  cases h with
  | key before | nextMember before | keyText before q =>
    exact ⟨before.reverse, rfl, by simp [Task.breakOff]⟩
  | colon before name =>
    exact ⟨((name, .broken b) :: before).reverse, rfl, by simp [Task.breakOff]⟩

theorem FramesExtend.foldl_breakOff {around wider : List Frame}
    (h : FramesExtend base around wider) (value : Node) (b : Break) :
    ∃ members, around.foldl (fun v f => f.breakOff v b) value = .object members (some b) ∧
      wider.foldl (fun v f => f.breakOff v b) value =
        .object (base.reverse ++ members) (some b) := by
  induction h generalizing value with
  | outermost before name =>
    exact ⟨((name, value) :: before).reverse, rfl, by simp [Frame.breakOff]⟩
  | cons f _ ih => exact ih (f.breakOff value b)

namespace State

theorem Extends.endReading {around wider : List Frame} {task next : Task}
    (h : State.Extends base (.reading around task) (.reading wider next)) (b : Break) :
    ∃ members, breakOff around task b = .object members (some b) ∧
      breakOff wider next b = .object (base.reverse ++ members) (some b) := by
  cases h with
  | between h => exact h.breakOff_eq b
  | inside h => exact h.foldl_breakOff (task.breakOff b) b

theorem Extends.stop {around wider : List Frame} {task next : Task}
    (h : State.Extends base (.reading around task) (.reading wider next)) :
    State.Extends base (stop around task) (stop wider next) := by
  obtain ⟨members, root, root'⟩ := h.endReading (.both .malformed)
  unfold State.stop
  rw [root, root']
  exact .stopped members _ false

/-! ### Steps -/

section Inside

variable {around wider : List Frame}

theorem extends_afterValue (h : FramesExtend base around wider) (value : Node) :
    State.Extends base (afterValue value around) (afterValue value wider) := by
  cases h with
  | outermost before name => exact .between (.nextMember ((name, value) :: before))
  | cons f h =>
    cases f with
    | item before => exact .inside h _
    | member before name => exact .inside h _

theorem extends_startValue (h : FramesExtend base around wider) (b : UInt8) :
    State.Extends base (startValue around b) (startValue wider b) := by
  unfold startValue
  split
  · exact .inside h _
  · split
    · exact .inside h _
    · exact .inside h _
    · exact .inside h _
    · exact .inside h _
    · exact .inside h _
    · exact .inside h _
    · exact .inside h _
    · exact (Extends.inside h _).stop

theorem extends_stepBetween (h : FramesExtend base around wider) (b : UInt8) (task : Task) :
    State.Extends base (stepBetween around b task) (stepBetween wider b task) := by
  unfold stepBetween
  split
  · next before =>
    split_ifs
    · exact .inside (.cons _ h) _
    · exact extends_afterValue h _
    · exact (Extends.inside h _).stop
  · next before =>
    split_ifs
    · exact .inside h _
    · exact extends_afterValue h _
    · exact (Extends.inside h _).stop
  · exact (Extends.inside h _).stop

theorem extends_stepMark (h : FramesExtend base around wider) (b : UInt8) (task : Task) :
    State.Extends base (stepMark around b task) (stepMark wider b task) := by
  unfold stepMark
  split
  · exact extends_startValue h b
  · split_ifs
    · exact extends_afterValue h _
    · exact extends_startValue (.cons _ h) b
  · split_ifs
    · exact .inside h _
    · exact extends_afterValue h _
    · exact (Extends.inside h _).stop
  · split_ifs
    · exact .inside h _
    · exact (Extends.inside h _).stop
  · split_ifs
    · exact .inside (.cons _ h) _
    · exact (Extends.inside h _).stop
  · exact extends_stepBetween h b _

end Inside

/-- Between the members of the outermost object. -/
theorem extends_stepBetween_members (before : List (Literal × Node)) (b : UInt8) :
    State.Extends base (stepBetween [] b (.nextMember before))
      (stepBetween [] b (.nextMember (before ++ base))) := by
  simp only [stepBetween]
  split_ifs
  · exact .between (.key before)
  · rw [List.reverse_append]
    exact .done before.reverse
  · exact (Extends.between (.nextMember before)).stop

theorem Extends.stepAfter {s t : State} (h : s.Extends base t) (b : UInt8) :
    (stepAfter s b).Extends base (stepAfter t b) := by
  unfold State.stepAfter
  split_ifs
  · exact h
  · cases h with
    | between h =>
      cases h with
      | nextMember before => exact extends_stepBetween_members before b
      | key before => exact (Extends.between (.key before)).stop
      | colon before name => exact (Extends.between (.colon before name)).stop
      | keyText before q => exact (Extends.between (.keyText before q)).stop
    | inside h task => exact extends_stepBetween h b task
    | done members => exact .stopped members none true
    | stopped members ending isAfter => exact .stopped members ending isAfter

theorem extends_stepReading {around wider : List Frame} (h : FramesExtend base around wider)
    (b : UInt8) (task : Task) :
    State.Extends base (stepReading around b task) (stepReading wider b task) := by
  unfold stepReading
  split
  · split
    · exact .inside h _
    · exact .inside h _
    · exact (Extends.inside h _).stop
  · split
    · exact .inside h _
    · exact extends_afterValue h _
    · exact (Extends.inside h _).stop
  · split
    · exact .inside h _
    · exact (extends_afterValue h _).stepAfter b
    · exact (Extends.inside h _).stop
  · split_ifs
    · exact (Extends.inside h _).stop
    · split
      · exact extends_afterValue h _
      · exact .inside h _
  · split_ifs
    · exact .inside h _
    · exact extends_stepMark h b _

/-- A byte in the outermost object, between its values. -/
theorem extends_stepReading_members {task wider : Task} (h : task.Extends base wider) (b : UInt8) :
    State.Extends base (stepReading [] b task) (stepReading [] b wider) := by
  cases h with
  | keyText before q =>
    simp only [stepReading]
    cases q.step b with
    | more r => exact .between (.keyText before r)
    | finished name => exact .between (.colon before name)
    | broken => exact (Extends.between (.keyText before q)).stop
  | nextMember before =>
    simp only [stepReading, stepMark]
    split_ifs
    · exact .between (.nextMember before)
    · exact extends_stepBetween_members before b
  | key before =>
    simp only [stepReading, stepMark]
    split_ifs
    · exact .between (.key before)
    · exact .between (.keyText before .empty)
    · exact (Extends.between (.key before)).stop
  | colon before name =>
    simp only [stepReading, stepMark]
    split_ifs
    · exact .between (.colon before name)
    · exact .inside (.outermost before name) .value
    · exact (Extends.between (.colon before name)).stop

theorem Extends.step {s t : State} (h : s.Extends base t) (b : UInt8) :
    (s.step b).Extends base (t.step b) := by
  cases h with
  | between h => exact extends_stepReading_members h b
  | inside h task => exact extends_stepReading h b task
  | done members => exact (Extends.done members).stepAfter b
  | stopped members ending isAfter => exact .stopped members ending isAfter

theorem Extends.foldl {s t : State} (h : s.Extends base t) (text : List UInt8) :
    (text.foldl State.step s).Extends base (text.foldl State.step t) := by
  induction text generalizing s t with
  | nil => exact h
  | cons b bs ih => exact ih (h.step b)

/-! ### The end of the text -/

/-- What a text states that ends in the state, unless a number ends with it. -/
def ended : State → Scan
  | .reading around task => endReading around task
  | .done root => ⟨root, false⟩
  | .stopped root isAfter => ⟨root, isAfter⟩

theorem finish_number (around : List Frame) (n : PartialNumeral) :
    (State.reading around (.number n)).finish =
      if n.isWhole then (afterValue (.number n.numeral) around).ended
      else endReading around (.number n) := by
  simp only [finish]
  split_ifs
  · unfold ended
    split <;> simp only [*]
  · rfl

theorem Extends.ended_eq {s t : State} (h : s.Extends base t) :
    ∃ members ending hasMore, s.ended = ⟨.object members ending, hasMore⟩ ∧
      t.ended = ⟨.object (base.reverse ++ members) ending, hasMore⟩ := by
  cases h with
  | @between task wider h =>
    have same : wider.endOfText = task.endOfText := by cases h <;> rfl
    obtain ⟨members, root, root'⟩ := (Extends.between h).endReading task.endOfText
    refine ⟨members, some task.endOfText, false, ?_, ?_⟩
    · simp only [ended, State.endReading, root]
    · simp only [ended, State.endReading, same, root']
  | inside h task =>
    obtain ⟨members, root, root'⟩ := (Extends.inside h task).endReading task.endOfText
    refine ⟨members, some task.endOfText, false, ?_, ?_⟩
    · simp only [ended, State.endReading, root]
    · simp only [ended, State.endReading, root']
  | done members => exact ⟨members, none, false, rfl, rfl⟩
  | stopped members ending isAfter => exact ⟨members, ending, isAfter, rfl, rfl⟩

theorem Extends.finish_eq {s t : State} (h : s.Extends base t) :
    ∃ members ending hasMore, s.finish = ⟨.object members ending, hasMore⟩ ∧
      t.finish = ⟨.object (base.reverse ++ members) ending, hasMore⟩ := by
  cases h with
  | between h => cases h <;> exact (Extends.between (by constructor)).ended_eq
  | @inside around wider h task =>
    cases task with
    | number n =>
      rw [finish_number, finish_number]
      split_ifs
      · exact (extends_afterValue h (.number n.numeral)).ended_eq
      · exact (Extends.inside h (.number n)).ended_eq
    | _ => exact (Extends.inside h _).ended_eq
  | done members => exact (Extends.done members).ended_eq
  | stopped members ending isAfter => exact (Extends.stopped members ending isAfter).ended_eq

end State

/-! ### The members behind a place -/

/-- The rest of a text states the same members, whatever the members in front of it are. -/
theorem exists_members (text : List UInt8) : ∃ members ending hasMore,
    ∀ base, (text.foldl State.step (.reading [] (.nextMember base))).finish =
      ⟨.object (base.reverse ++ members) ending, hasMore⟩ := by
  have extends_nil : ∀ base, State.Extends base (.reading [] (.nextMember []))
      (.reading [] (.nextMember base)) := fun base => .between (.nextMember [])
  obtain ⟨members, ending, hasMore, own, -⟩ := ((extends_nil []).foldl text).finish_eq
  refine ⟨members, ending, hasMore, fun base => ?_⟩
  obtain ⟨members', ending', hasMore', own', root⟩ := ((extends_nil base).foldl text).finish_eq
  cases own.symm.trans own'
  exact root

theorem foldl_step_stopped (root : Node) (isAfter : Bool) (text : List UInt8) :
    text.foldl State.step (.stopped root isAfter) = .stopped root isAfter := by
  induction text with
  | nil => rfl
  | cons b bs ih => exact ih

/-- White space, a comma or the end of an object. -/
def EndsMember (b : UInt8) : Prop :=
  isSpace b = true ∨ b = 0x2C ∨ b = 0x7D

/-- An object that is whole goes on after a member. -/
theorem exists_of_ending_none {text : List UInt8} {base members : List (Literal × Node)}
    {hasMore : Bool} (h : (text.foldl State.step (.reading [] (.nextMember base))).finish =
      ⟨.object members none, hasMore⟩) : ∃ b rest, text = b :: rest ∧ EndsMember b := by
  cases text with
  | nil => cases h
  | cons b rest =>
    refine ⟨b, rest, rfl, ?_⟩
    by_contra other
    unfold EndsMember at other
    simp only [not_or] at other
    obtain ⟨space, comma, ending⟩ := other
    have stops : (State.reading [] (.nextMember base)).step b =
        State.stop [] (.nextMember base) := by
      simp only [State.step, State.stepReading, State.stepMark, State.stepBetween, space, comma,
        ending, if_false]
      rfl
    rw [List.foldl_cons, stops, State.stop, foldl_step_stopped] at h
    cases h

end TxInspect.Json
