import Mathlib.Tactic.Common
import TxInspect.Json.Machine
import TxInspect.Proofs.Results
import TxInspect.Proofs.Text.Utf8

/-!
# How long the strings of a JSON text are

A piece of a written string takes at least one byte of the text, and an escape with digits six
(`Piece.extent`).  What has been read of a text of `n` bytes holds no string that takes more than
`n` of them (`Node.Fits`): one step of the machine keeps this with one byte more
(`State.fits_step`), and so does a whole scan (`fits_scan`).  The characters of a string take no
more bytes than the string itself (`length_le_extent`).
-/

namespace TxInspect.Json

open Results

/-! ### Strings -/

/-- The least number of bytes that a piece is written in. -/
def Piece.extent : Piece → Nat
  | .byte _ => 1
  | .unit _ => 6

/-- The least number of bytes that a string is written in. -/
def Literal.extent : Literal → Nat
  | [] => 0
  | p :: q => p.extent + extent q

/-- The bytes of an escape that is not whole. -/
def LiteralPhase.extent : LiteralPhase → Nat
  | .plain => 0
  | .escape => 1
  | .digits seen => 2 + seen.length

/-- The least number of bytes that have been read of a string. -/
def PartialLiteral.extent (q : PartialLiteral) : Nat :=
  Literal.extent q.pieces + q.phase.extent

theorem Literal.extent_cons (p : Piece) (q : Literal) :
    Literal.extent (p :: q) = p.extent + Literal.extent q := rfl

theorem length_utf8_single_le (c : Char) : (Utf8.encode [c]).length ≤ 4 := by
  simpa [Utf8.encode] using c.utf8Size_le_four

/-- The bytes of a string are no more than it is written in. -/
theorem Literal.length_le_extent {q : Literal} {bs : List UInt8} (h : q.bytes? = .ok bs) :
    bs.length ≤ q.extent := by
  have single := length_utf8_single_le
  fun_induction Literal.bytes? q generalizing bs with
  | case1 => cases h; simp
  | case2 b rest ih =>
    obtain ⟨cs, hcs, rfl⟩ := map_eq_ok_iff.1 h
    have := ih hcs
    simp only [List.length_cons, Literal.extent_cons, Piece.extent]
    omega
  | case3 => cases h
  | case4 => cases h
  | case5 n =>
    cases h
    have := single (Char.ofNat n)
    simp only [Literal.extent_cons, Piece.extent]
    omega
  | case6 => cases h
  | case7 n b rest _ ih =>
    obtain ⟨cs, hcs, rfl⟩ := map_eq_ok_iff.1 h
    have := ih hcs
    have := single (Char.ofNat n)
    simp only [List.length_append, List.length_cons, Literal.extent_cons, Piece.extent]
    omega
  | case8 => cases h
  | case9 n m rest _ _ _ ih =>
    obtain ⟨cs, hcs, rfl⟩ := map_eq_ok_iff.1 h
    have := ih hcs
    have := single (pairChar n m)
    simp only [List.length_append, Literal.extent_cons, Piece.extent]
    omega
  | case10 => cases h
  | case11 n m rest _ _ ih =>
    obtain ⟨cs, hcs, rfl⟩ := map_eq_ok_iff.1 h
    have := ih hcs
    have := single (Char.ofNat n)
    simp only [List.length_append, Literal.extent_cons, Piece.extent] at *
    omega

theorem Literal.extent_append (q r : Literal) :
    Literal.extent (q ++ r) = q.extent + r.extent := by
  induction q with
  | nil => simp [Literal.extent]
  | cons p q ih =>
    rw [List.cons_append, Literal.extent_cons, Literal.extent_cons, ih]
    omega

theorem Literal.extent_reverse (q : Literal) : Literal.extent q.reverse = q.extent := by
  induction q with
  | nil => rfl
  | cons p q ih =>
    rw [List.reverse_cons, Literal.extent_append, ih, Literal.extent_cons]
    simp only [Literal.extent]
    omega

/-- One byte more takes a string one byte further. -/
theorem PartialLiteral.extent_step {q r : PartialLiteral} {b : UInt8} (h : q.step b = .more r) :
    r.extent ≤ q.extent + 1 := by
  obtain ⟨pieces, phase⟩ := q
  rw [PartialLiteral.step.eq_def] at h
  split at h
  · next hphase =>
    split_ifs at h
    · cases h
      simp only [extent, show phase = .plain from hphase, LiteralPhase.extent]
      omega
    · cases h
      simp only [extent, Literal.extent_cons, Piece.extent, LiteralPhase.extent]
      omega
  · next hphase =>
    split_ifs at h
    · cases h
      simp [extent, show phase = .escape from hphase, LiteralPhase.extent]
    · split at h
      · cases h
        simp only [extent, Literal.extent_cons, Piece.extent, LiteralPhase.extent]
        omega
      · cases h
  · next x y z hphase =>
    split at h
    · cases h
      simp only [extent, show phase = .digits [x, y, z] from hphase, Literal.extent_cons,
        Piece.extent, LiteralPhase.extent, List.length_cons, List.length_nil]
      omega
    · cases h
  · next seen _ hphase =>
    cases h
    simp only [extent, show phase = .digits seen from hphase, LiteralPhase.extent,
      List.length_append, List.length_cons, List.length_nil]
    omega

/-- A string that is finished takes no more bytes than have been read of it. -/
theorem PartialLiteral.extent_finished {q : PartialLiteral} {b : UInt8} {r : Literal}
    (h : q.step b = .finished r) : r.extent ≤ q.extent := by
  obtain ⟨pieces, phase⟩ := q
  rw [PartialLiteral.step.eq_def] at h
  split at h
  · split_ifs at h
    · cases h
      simp [extent, literal, Literal.extent_reverse]
    · cases h
  · split_ifs at h
    split at h <;> cases h
  · split at h <;> cases h
  · cases h

/-! ### Values -/

/-- No string in a value takes more than `n` bytes. -/
inductive Node.Fits (n : Nat) : Node → Prop where
  | null : Node.Fits n .null
  | bool (b : Bool) : Node.Fits n (.bool b)
  | number (m : Numeral) : Node.Fits n (.number m)
  | text {q : Literal} (h : q.extent ≤ n) : Node.Fits n (.text q)
  | array {items : List Node} (ending : Option Break) (h : ∀ x ∈ items, Node.Fits n x) :
    Node.Fits n (.array items ending)
  | object {members : List (Literal × Node)} (ending : Option Break)
    (h : ∀ m ∈ members, Node.Fits n m.2) : Node.Fits n (.object members ending)
  | broken (b : Break) : Node.Fits n (.broken b)

theorem Node.Fits.mono {n m : Nat} (hle : n ≤ m) {node : Node} (h : node.Fits n) : node.Fits m := by
  induction h with
  | null => exact .null
  | bool b => exact .bool b
  | number k => exact .number k
  | text h => exact .text (Nat.le_trans h hle)
  | array ending _ ih => exact .array ending ih
  | object ending _ ih => exact .object ending ih
  | broken b => exact .broken b

/-- No string in what came before a value takes more than `n` bytes. -/
def Frame.Fits (n : Nat) : Frame → Prop
  | .item before => ∀ x ∈ before, x.Fits n
  | .member before _ => ∀ m ∈ before, m.2.Fits n

/-- No string in a task, the keys of objects excepted, takes more than `n` bytes. -/
def Task.Fits (n : Nat) : Task → Prop
  | .value | .firstItem | .firstKey | .number _ => True
  | .nextItem before => ∀ x ∈ before, x.Fits n
  | .key before | .nextMember before | .colon before _ | .keyText before _ =>
    ∀ m ∈ before, m.2.Fits n
  | .text q => q.extent ≤ n
  | .word _ _ node => node.Fits n

/-- No string in what a machine has read takes more than `n` bytes. -/
def State.Fits (n : Nat) : State → Prop
  | .reading around task => (∀ f ∈ around, f.Fits n) ∧ task.Fits n
  | .done root => root.Fits n
  | .stopped root _ => root.Fits n

/-! ### Steps -/

variable {n : Nat} {around : List Frame}

theorem Frame.Fits.mono {m : Nat} (hle : n ≤ m) {f : Frame} (h : f.Fits n) : f.Fits m := by
  cases f with
  | item before => exact fun x hx => (h x hx).mono hle
  | member before name => exact fun x hx => (h x hx).mono hle

theorem Task.Fits.mono {m : Nat} (hle : n ≤ m) {task : Task} (h : task.Fits n) : task.Fits m := by
  cases task with
  | value | firstItem | firstKey | number => trivial
  | nextItem before => exact fun x hx => Node.Fits.mono hle (h x hx)
  | key before => exact fun x hx => Node.Fits.mono hle (h x hx)
  | nextMember before => exact fun x hx => Node.Fits.mono hle (h x hx)
  | colon before name => exact fun x hx => Node.Fits.mono hle (h x hx)
  | keyText before q => exact fun x hx => Node.Fits.mono hle (h x hx)
  | text q => exact Nat.le_trans h hle
  | word next rest node => exact Node.Fits.mono hle h

theorem Frame.fits_breakOff {f : Frame} (hf : f.Fits n) {node : Node} (h : node.Fits n)
    (b : Break) : (f.breakOff node b).Fits n := by
  cases f with
  | item before =>
    refine .array _ fun x hx => ?_
    rcases List.mem_cons.1 (List.mem_reverse.1 hx) with rfl | hx
    · exact h
    · exact hf x hx
  | member before name =>
    refine .object _ fun m hm => ?_
    rcases List.mem_cons.1 (List.mem_reverse.1 hm) with rfl | hm
    · exact h
    · exact hf m hm

theorem Task.fits_breakOff {task : Task} (h : task.Fits n) (b : Break) :
    (task.breakOff b).Fits n := by
  cases task with
  | firstItem => exact .array _ (by simp)
  | firstKey => exact .object _ (by simp)
  | nextItem before => exact .array _ fun x hx => h x (List.mem_reverse.1 hx)
  | key before => exact .object _ fun x hx => h x (List.mem_reverse.1 hx)
  | nextMember before => exact .object _ fun x hx => h x (List.mem_reverse.1 hx)
  | keyText before q => exact .object _ fun x hx => h x (List.mem_reverse.1 hx)
  | colon before name =>
    refine .object _ fun m hm => ?_
    rcases List.mem_cons.1 (List.mem_reverse.1 hm) with rfl | hm
    · exact .broken b
    · exact h m hm
  | value | text | number | word => exact .broken b

theorem fits_breakOff (hf : ∀ f ∈ around, f.Fits n) {task : Task} (h : task.Fits n) (b : Break) :
    (breakOff around task b).Fits n := by
  have go : ∀ node : Node, node.Fits n →
      (around.foldl (fun value frame => frame.breakOff value b) node).Fits n := by
    induction around with
    | nil => exact fun node hn => hn
    | cons f fs ih =>
      intro node hn
      exact ih (fun g hg => hf g (List.mem_cons_of_mem f hg)) _
        (Frame.fits_breakOff (hf f List.mem_cons_self) hn b)
  exact go _ (Task.fits_breakOff h b)

namespace State

theorem fits_stop (hf : ∀ f ∈ around, f.Fits n) {task : Task} (h : task.Fits n) :
    (stop around task).Fits n :=
  fits_breakOff hf h _

theorem fits_afterValue (hf : ∀ f ∈ around, f.Fits n) {node : Node} (h : node.Fits n) :
    (afterValue node around).Fits n := by
  match around, hf with
  | [], _ => exact h
  | .item before :: fs, hf =>
    refine ⟨fun g hg => hf g (List.mem_cons_of_mem _ hg), fun x hx => ?_⟩
    rcases List.mem_cons.1 hx with rfl | hx
    · exact h
    · exact hf _ List.mem_cons_self x hx
  | .member before name :: fs, hf =>
    refine ⟨fun g hg => hf g (List.mem_cons_of_mem _ hg), fun m hm => ?_⟩
    rcases List.mem_cons.1 hm with rfl | hm
    · exact h
    · exact hf _ List.mem_cons_self m hm

theorem fits_startValue (hf : ∀ f ∈ around, f.Fits n) (b : UInt8) :
    (startValue around b).Fits n := by
  rw [startValue]
  split
  · exact ⟨hf, trivial⟩
  · split
    · exact ⟨hf, trivial⟩
    · exact ⟨hf, Nat.zero_le n⟩
    · exact ⟨hf, trivial⟩
    · exact ⟨hf, trivial⟩
    · exact ⟨hf, .null⟩
    · exact ⟨hf, .bool true⟩
    · exact ⟨hf, .bool false⟩
    · exact fits_stop hf trivial

theorem fits_cons {f : Frame} (h : f.Fits n) (hf : ∀ f ∈ around, f.Fits n) :
    ∀ g ∈ f :: around, g.Fits n := by
  simpa using ⟨h, hf⟩

theorem fits_stepBetween (hf : ∀ f ∈ around, f.Fits n) (b : UInt8) {task : Task}
    (h : task.Fits n) : (stepBetween around b task).Fits n := by
  fun_cases stepBetween around b task with
  | case1 before _ => exact ⟨fits_cons h hf, trivial⟩
  | case2 before _ _ => exact fits_afterValue hf (.array _ fun x hx => h x (List.mem_reverse.1 hx))
  | case3 => exact fits_stop hf h
  | case4 before _ => exact ⟨hf, h⟩
  | case5 before _ _ => exact fits_afterValue hf (.object _ fun x hx => h x (List.mem_reverse.1 hx))
  | case6 => exact fits_stop hf h
  | case7 => exact fits_stop hf h

theorem fits_stepAfter {s : State} (h : s.Fits n) (b : UInt8) : (stepAfter s b).Fits n := by
  unfold stepAfter
  split_ifs
  · exact h
  · cases s with
    | reading around task => exact fits_stepBetween h.1 b h.2
    | done root => exact h
    | stopped root isAfter => exact h

theorem fits_stepMark (hf : ∀ f ∈ around, f.Fits n) (b : UInt8) {task : Task} (h : task.Fits n) :
    (stepMark around b task).Fits n := by
  fun_cases stepMark around b task with
  | case1 => exact fits_startValue hf b
  | case2 => exact fits_afterValue hf (.array _ (by simp))
  | case3 => exact fits_startValue (fits_cons (f := .item []) (by simp [Frame.Fits]) hf) b
  | case4 => exact ⟨hf, by simp [Task.Fits]⟩
  | case5 => exact fits_afterValue hf (.object _ (by simp))
  | case6 => exact fits_stop hf h
  | case7 => exact ⟨hf, h⟩
  | case8 => exact fits_stop hf h
  | case9 before name _ => exact ⟨fits_cons (f := .member before name) h hf, trivial⟩
  | case10 => exact fits_stop hf h
  | case11 => exact fits_stepBetween hf b h

/-- A byte inside a value: only the string that is being read gets longer. -/
theorem fits_stepReading (hf : ∀ f ∈ around, f.Fits n) (b : UInt8) {task : Task}
    (h : task.Fits n) : (stepReading around b task).Fits (n + 1) := by
  have hf' : ∀ f ∈ around, f.Fits (n + 1) := fun f hf₀ => (hf f hf₀).mono (Nat.le_succ n)
  have h' : task.Fits (n + 1) := h.mono (Nat.le_succ n)
  fun_cases stepReading around b task with
  | case1 => exact ⟨hf', h'⟩
  | case2 => exact ⟨hf', h'⟩
  | case3 => exact fits_stop hf' h'
  | case4 q r hr =>
    exact ⟨hf', Nat.le_trans (PartialLiteral.extent_step hr) (Nat.succ_le_succ h)⟩
  | case5 q r hr =>
    exact fits_afterValue hf' (.text (Nat.le_trans (PartialLiteral.extent_finished hr) h'))
  | case6 => exact fits_stop hf' h'
  | case7 => exact ⟨hf', trivial⟩
  | case8 => exact fits_stepAfter (fits_afterValue hf' (.number _)) b
  | case9 => exact fits_stop hf' h'
  | case10 => exact fits_stop hf' h'
  | case11 => exact fits_afterValue hf' h'
  | case12 => exact ⟨hf', h'⟩
  | case13 => exact ⟨hf', h'⟩
  | case14 => exact fits_stepMark hf' b h'

theorem fits_step {s : State} (h : s.Fits n) (b : UInt8) : (s.step b).Fits (n + 1) := by
  cases s with
  | reading around task => exact fits_stepReading h.1 b h.2
  | done root => exact fits_stepAfter (s := .done root) (Node.Fits.mono (Nat.le_succ n) h) b
  | stopped root isAfter => exact Node.Fits.mono (Nat.le_succ n) h

theorem fits_foldl {s : State} (h : s.Fits n) (text : List UInt8) :
    (text.foldl step s).Fits (n + text.length) := by
  induction text generalizing s n with
  | nil => exact h
  | cons b bs ih =>
    have := ih (fits_step h b)
    rwa [Nat.add_assoc, Nat.add_comm 1] at this

theorem fits_endReading (hf : ∀ f ∈ around, f.Fits n) {task : Task} (h : task.Fits n) :
    (endReading around task).root.Fits n :=
  fits_breakOff hf h _

theorem fits_finish {s : State} (h : s.Fits n) : s.finish.root.Fits n := by
  fun_cases finish s with
  | case1 around m _ around' task heq =>
    have := fits_afterValue h.1 (.number m.numeral)
    rw [heq] at this
    exact fits_endReading this.1 this.2
  | case2 around m _ root heq =>
    have := fits_afterValue h.1 (.number m.numeral)
    rwa [heq] at this
  | case3 around m _ root isAfter heq =>
    have := fits_afterValue h.1 (.number m.numeral)
    rwa [heq] at this
  | case4 => exact fits_endReading h.1 h.2
  | case5 => exact fits_endReading h.1 h.2
  | case6 => exact h
  | case7 => exact h

end State

/-- No string that a text states takes more bytes than the text. -/
theorem fits_scan (text : List UInt8) : (scan text).root.Fits text.length := by
  have start : State.start.Fits 0 := ⟨by simp, trivial⟩
  have := State.fits_foldl start text
  rw [Nat.zero_add] at this
  exact State.fits_finish this

end TxInspect.Json
