import Mathlib.Data.List.Forall2
import Mathlib.Tactic.Common

/-!
# Results and failures

When work put together out of parts succeeds (`bind_eq_ok_iff`, `map_eq_ok_iff`,
`mapError_eq_ok_iff`), and which failures it can end in: `FailsOnly P x` says that every failure of
`x` has the property `P`.  Two pieces of work are `Related` if they succeed with related answers or
fail with related failures; so are those that are put together out of related parts.
-/

namespace TxInspect.Results

variable {ε σ α β : Type}

theorem bind_eq_ok_iff {x : Except ε α} {f : α → Except ε β} {b : β} :
    x >>= f = .ok b ↔ ∃ a, x = .ok a ∧ f a = .ok b := by
  cases x with
  | error e => simp [bind, Except.bind]
  | ok a => simp [bind, Except.bind]

theorem map_eq_ok_iff {x : Except ε α} {f : α → β} {b : β} :
    x.map f = .ok b ↔ ∃ a, x = .ok a ∧ f a = b := by
  cases x <;> simp [Except.map]

theorem mapError_eq_ok_iff {x : Except ε α} {f : ε → σ} {a : α} :
    x.mapError f = .ok a ↔ x = .ok a := by
  cases x <;> simp [Except.mapError]

theorem isOk_iff {x : Except ε α} : x.isOk = true ↔ ∃ a, x = .ok a := by
  cases x <;> simp [Except.isOk, Except.toBool]

/-- What every single result has, the results of a list have. -/
theorem forall_of_mapM_eq_ok {f : α → Except ε β} {Q : β → Prop} {as : List α} {bs : List β}
    (h : as.mapM f = .ok bs) (each : ∀ a ∈ as, ∀ b, f a = .ok b → Q b) : ∀ b ∈ bs, Q b := by
  induction as generalizing bs with
  | nil =>
    cases h
    simp
  | cons a as ih =>
    rw [List.mapM_cons] at h
    obtain ⟨b, hb, h⟩ := bind_eq_ok_iff.1 h
    obtain ⟨tail, htail, h⟩ := bind_eq_ok_iff.1 h
    cases h
    refine List.forall_mem_cons.2 ⟨each a List.mem_cons_self b hb, ?_⟩
    exact ih htail fun c hc => each c (List.mem_cons_of_mem a hc)

/-- Each result of a list is the result of the element at its place. -/
theorem getElem?_of_mapM_eq_ok {f : α → Except ε β} {as : List α} {bs : List β}
    (h : as.mapM f = .ok bs) {i : Nat} {b : β} (hb : bs[i]? = some b) :
    ∃ a, as[i]? = some a ∧ f a = .ok b := by
  induction as generalizing bs i with
  | nil =>
    cases h
    cases hb
  | cons a as ih =>
    rw [List.mapM_cons] at h
    obtain ⟨first, hfirst, h⟩ := bind_eq_ok_iff.1 h
    obtain ⟨tail, htail, h⟩ := bind_eq_ok_iff.1 h
    cases h
    cases i with
    | zero =>
      cases hb
      exact ⟨a, rfl, hfirst⟩
    | succ i => exact ih htail hb

/-- A list whose parts all fail alike, or succeed, fails if one of them does. -/
theorem mapM_eq_ite {p : α → Prop} [DecidablePred p] {e : ε} {g : α → β} {f : α → Except ε β}
    {as : List α} (h : ∀ a ∈ as, f a = if p a then .error e else .ok (g a)) :
    as.mapM f = if ∃ a ∈ as, p a then .error e else .ok (as.map g) := by
  induction as with
  | nil => simp [pure, Except.pure]
  | cons a as ih =>
    have tail := ih fun b hb => h b (List.mem_cons_of_mem a hb)
    rw [List.mapM_cons, h a List.mem_cons_self, tail]
    by_cases first : p a
    · simp [first, bind, Except.bind]
    · by_cases later : ∃ b ∈ as, p b
      · simp [first, later, bind, Except.bind]
      · simp [first, later, bind, Except.bind, pure, Except.pure]

/-- Every failure has the property. -/
def FailsOnly (P : ε → Prop) (x : Except ε α) : Prop :=
  ∀ e, x = .error e → P e

variable {P : ε → Prop}

theorem failsOnly_ok (a : α) : FailsOnly P (.ok a) := by
  intro e h
  cases h

theorem failsOnly_error {e : ε} (h : P e) : FailsOnly P (.error e : Except ε α) := by
  rintro _ ⟨⟩
  exact h

theorem FailsOnly.mono {Q : ε → Prop} {x : Except ε α} (hx : FailsOnly P x)
    (h : ∀ e, P e → Q e) : FailsOnly Q x :=
  fun e he => h e (hx e he)

/-- What succeeds does not fail. -/
theorem failsOnly_of_exists {x : Except ε α} (h : ∃ a, x = .ok a) : FailsOnly P x := by
  obtain ⟨a, rfl⟩ := h
  exact failsOnly_ok a

theorem FailsOnly.bind {x : Except ε α} {f : α → Except ε β} (hx : FailsOnly P x)
    (hf : ∀ a, x = .ok a → FailsOnly P (f a)) : FailsOnly P (x >>= f) := by
  cases x with
  | error e => exact failsOnly_error (hx e rfl)
  | ok a => exact hf a rfl

theorem FailsOnly.map {x : Except ε α} (hx : FailsOnly P x) (f : α → β) :
    FailsOnly P (x.map f) := by
  cases x with
  | error e => exact failsOnly_error (hx e rfl)
  | ok a => exact failsOnly_ok (f a)

theorem failsOnly_mapError {x : Except σ α} {f : σ → ε} (h : ∀ e, x = .error e → P (f e)) :
    FailsOnly P (x.mapError f) := by
  cases x with
  | error e => exact failsOnly_error (h e rfl)
  | ok a => exact failsOnly_ok a

theorem failsOnly_mapM {f : α → Except ε β} {as : List α} (h : ∀ a ∈ as, FailsOnly P (f a)) :
    FailsOnly P (as.mapM f) := by
  induction as with
  | nil => exact failsOnly_ok []
  | cons a as ih =>
    rw [List.mapM_cons]
    refine FailsOnly.bind (h a List.mem_cons_self) fun b _ => ?_
    exact (ih fun c hc => h c (List.mem_cons_of_mem a hc)).bind fun bs _ => failsOnly_ok _

/-! ### Two results -/

/-- Both succeed with related answers, or both fail with related failures. -/
inductive Related (E : ε → ε → Prop) (A : α → β → Prop) : Except ε α → Except ε β → Prop where
  | ok {a : α} {b : β} (h : A a b) : Related E A (.ok a) (.ok b)
  | error {e e' : ε} (h : E e e') : Related E A (.error e) (.error e')

variable {E : ε → ε → Prop} {γ δ : Type} {A : α → β → Prop} {B : γ → δ → Prop}

theorem related_of_eq (hE : ∀ e, E e e) {x y : Except ε α} (h : x = y) : Related E (· = ·) x y := by
  subst h
  cases x with
  | error e => exact .error (hE e)
  | ok a => exact .ok rfl

theorem Related.bind {x : Except ε α} {y : Except ε β} {f : α → Except ε γ} {g : β → Except ε δ}
    (h : Related E A x y) (hf : ∀ a b, A a b → Related E B (f a) (g b)) :
    Related E B (x >>= f) (y >>= g) := by
  cases h with
  | ok h => exact hf _ _ h
  | error h => exact .error h

/-- The same result first, and related work after it. -/
theorem Related.bind_same (hE : ∀ e, E e e) {x y : Except ε α} {f : α → Except ε γ}
    {g : α → Except ε δ} (h : x = y) (hf : ∀ a, Related E B (f a) (g a)) :
    Related E B (x >>= f) (y >>= g) :=
  (related_of_eq hE h).bind fun a _ hab => hab ▸ hf a

theorem Related.mapM {f : α → Except ε γ} {g : β → Except ε δ} {as : List α} {bs : List β}
    (h : List.Forall₂ A as bs) (each : ∀ a b, A a b → Related E B (f a) (g b)) :
    Related E (List.Forall₂ B) (as.mapM f) (bs.mapM g) := by
  induction h with
  | nil => exact .ok .nil
  | cons first _ ih =>
    rw [List.mapM_cons, List.mapM_cons]
    refine (each _ _ first).bind fun c d hcd => ?_
    exact ih.bind fun cs ds hcs => .ok (.cons hcd hcs)

end TxInspect.Results
