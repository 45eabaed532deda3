/-!
# Accounts of work done

An `Account` is the result of some work together with the events that were noted on the way, in
order. Accounts are put together as a monad: the events of the parts follow each other, and nothing
is noted after a failure.
-/

namespace TxInspect.Log

/-- The result of some work, and the events noted on the way. -/
structure Account (ε σ α : Type) where
  events : List ε
  result : Except σ α

namespace Account

variable {ε σ α β : Type}

/-- A result without events. -/
def ofResult (result : Except σ α) : Account ε σ α := ⟨[], result⟩

/-- Notes an event. -/
def note (event : ε) : Account ε σ Unit := ⟨[event], .ok ()⟩

/-- Goes on after a result. -/
def next (x : Account ε σ α) (f : α → Account ε σ β) : Account ε σ β :=
  match x.result with
  | .ok a => ⟨x.events ++ (f a).events, (f a).result⟩
  | .error e => ⟨x.events, .error e⟩

instance : Monad (Account ε σ) where
  pure a := ofResult (.ok a)
  bind := next

@[simp] theorem events_ofResult (result : Except σ α) :
    (ofResult result : Account ε σ α).events = [] := rfl

@[simp] theorem events_pure (a : α) : (pure a : Account ε σ α).events = [] := rfl

@[simp] theorem result_bind (x : Account ε σ α) (f : α → Account ε σ β) :
    (x >>= f).result = x.result >>= fun a => (f a).result := by
  rcases x with ⟨events, _ | a⟩ <;> rfl

@[simp] theorem ofResult_ok_bind (a : α) (f : α → Account ε σ β) :
    (ofResult (.ok a) >>= f) = f a := rfl

@[simp] theorem ofResult_error_bind (e : σ) (f : α → Account ε σ β) :
    (ofResult (.error e) >>= f) = ofResult (.error e) := rfl

@[simp] theorem events_note_bind (event : ε) (f : Unit → Account ε σ β) :
    (note event >>= f).events = event :: (f ()).events := rfl

theorem events_bind_of_ok {x : Account ε σ α} {a : α} (h : x.result = .ok a)
    (f : α → Account ε σ β) : (x >>= f).events = x.events ++ (f a).events := by
  rcases x with ⟨events, result⟩
  subst h
  rfl

theorem events_bind_of_error {x : Account ε σ α} {e : σ} (h : x.result = .error e)
    (f : α → Account ε σ β) : (x >>= f).events = x.events := by
  rcases x with ⟨events, result⟩
  subst h
  rfl

end Account

end TxInspect.Log
