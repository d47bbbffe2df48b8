/-
# Actions and their traces

An operation of the library is an `Action` on a world: from a world it makes a `Run`, which holds
the result or the failure, the events on the way, and the world afterwards.  An event is a record
of the log or a request to the service, and events stand in the order in which they happened.

Actions compose as a monad: a failure ends the whole, keeps the events before it, and keeps the
world as the failing action left it (`bind_run_ok`, `bind_run_error`).
-/
import Workspace.Failure
import Workspace.Http.Message
import Workspace.Log.Record
namespace Workspace

/-- What an action lets others see while it runs. -/
inductive Event
  | log (r : Log.Record)
  | request (r : Http.Request)
  deriving DecidableEq, Repr

namespace Event

/-- The record of a log event. -/
def record? : Event → Option Log.Record
  | log r => some r
  | request _ => none

/-- The request of a request event. -/
def request? : Event → Option Http.Request
  | log _ => none
  | request r => some r

end Event

theorem toOption_eq_some_iff {ε α : Type} {x : Except ε α} {a : α} :
    x.toOption = some a ↔ x = .ok a := by
  cases x <;> simp [Except.toOption]

theorem exists_of_isOk {ε α : Type} {x : Except ε α} (h : x.isOk = true) : ∃ a, x = .ok a := by
  cases x with
  | ok a => exact ⟨a, rfl⟩
  | error e => cases h

theorem exists_of_not_isOk {ε α : Type} {x : Except ε α} (h : x.isOk = false) :
    ∃ e, x = .error e := by
  cases x with
  | ok a => cases h
  | error e => exact ⟨e, rfl⟩

theorem map_eq_ok_iff {ε α β : Type} {f : α → β} {x : Except ε α} {b : β} :
    x.map f = .ok b ↔ ∃ a, x = .ok a ∧ f a = b := by
  cases x <;> simp [Except.map]

theorem map_eq_error_iff {ε α β : Type} {f : α → β} {x : Except ε α} {e : ε} :
    x.map f = .error e ↔ x = .error e := by
  cases x <;> simp [Except.map]

@[simp] theorem mapError_ok {ε ε' α : Type} (f : ε → ε') (a : α) :
    (Except.ok a : Except ε α).mapError f = .ok a := rfl

@[simp] theorem mapError_error {ε ε' α : Type} (f : ε → ε') (e : ε) :
    (Except.error e : Except ε α).mapError f = .error (f e) := rfl

theorem mapError_eq_error_iff {ε ε' α : Type} {f : ε → ε'} {x : Except ε α} {e' : ε'} :
    x.mapError f = .error e' ↔ ∃ e, x = .error e ∧ f e = e' := by
  cases x <;> simp

theorem mapError_eq_ok_iff {ε ε' α : Type} {f : ε → ε'} {x : Except ε α} {a : α} :
    x.mapError f = .ok a ↔ x = .ok a := by
  cases x <;> simp

/-- What an action made of a world. -/
structure Run (ω α : Type) where
  result : Except Failure α
  events : List Event
  world : ω

namespace Run

variable {ω α : Type}

/-- The records of a run, in order. -/
def records (r : Run ω α) : List Log.Record := r.events.filterMap Event.record?

/-- The requests of a run, in order. -/
def requests (r : Run ω α) : List Http.Request := r.events.filterMap Event.request?

/-- The run with a function applied to what it returns. -/
def map {β : Type} (f : α → β) (r : Run ω α) : Run ω β := ⟨r.result.map f, r.events, r.world⟩

theorem map_result {β : Type} (f : α → β) (r : Run ω α) : (r.map f).result = r.result.map f := rfl

theorem map_world {β : Type} (f : α → β) (r : Run ω α) : (r.map f).world = r.world := rfl

end Run

/-- An operation on a world `ω` that returns an `α`. -/
def Action (ω α : Type) : Type := ω → Run ω α

namespace Action

variable {ω α β : Type}

/-- Return a value and do nothing. -/
protected def pure (a : α) : Action ω α := fun w => ⟨.ok a, [], w⟩

/-- Run an action, and on its value another. -/
protected def bind (x : Action ω α) (f : α → Action ω β) : Action ω β := fun w =>
  let r := x w
  match r.result with
  | .ok a =>
    let s := f a r.world
    ⟨s.result, r.events ++ s.events, s.world⟩
  | .error failure => ⟨.error failure, r.events, r.world⟩

instance : Monad (Action ω) where
  pure := Action.pure
  bind := Action.bind

/-- Fail. -/
def fail (failure : Failure) : Action ω α := fun w => ⟨.error failure, [], w⟩

/-- Write a record. -/
def log (r : Log.Record) : Action ω Unit := fun w => ⟨.ok (), [.log r], w⟩

/-- Return a value or fail, as was found out without the world. -/
def ofExcept (x : Except Failure α) : Action ω α := fun w => ⟨x, [], w⟩

/-- Return a value or fail with an error. -/
def ofResult (x : Except Error α) : Action ω α := ofExcept (x.mapError .error)

/-- The world. -/
def get : Action ω ω := fun w => ⟨.ok w, [], w⟩

/-- Change the world. -/
def modify (f : ω → ω) : Action ω Unit := fun w => ⟨.ok (), [], f w⟩

/-- Run an action on a part of the world. -/
def onPart {π : Type} (get : ω → π) (set : ω → π → ω) (x : Action π α) : Action ω α := fun w =>
  let r := x (get w)
  ⟨r.result, r.events, set w r.world⟩

/-- Run an action, and change the world afterwards however it ended. -/
def afterwards (x : Action ω α) (f : ω → ω) : Action ω α := fun w =>
  let r := x w
  ⟨r.result, r.events, f r.world⟩

/-! ## What single actions do -/

section Single

variable (w : ω)

@[simp] theorem pure_run (a : α) : (pure a : Action ω α) w = ⟨.ok a, [], w⟩ := rfl

@[simp] theorem fail_run (failure : Failure) :
    (fail failure : Action ω α) w = ⟨.error failure, [], w⟩ := rfl

@[simp] theorem log_run (r : Log.Record) : log r w = ⟨.ok (), [.log r], w⟩ := rfl

@[simp] theorem ofExcept_run (x : Except Failure α) : ofExcept x w = ⟨x, [], w⟩ := rfl

@[simp] theorem ofResult_run (x : Except Error α) :
    ofResult x w = ⟨x.mapError .error, [], w⟩ := rfl

@[simp] theorem get_run : get w = ⟨.ok w, [], w⟩ := rfl

@[simp] theorem modify_run (f : ω → ω) : modify f w = ⟨.ok (), [], f w⟩ := rfl

end Single

/-! ## What composition does -/

/-- The second action runs if the first one returned. -/
theorem bind_run (x : Action ω α) (f : α → Action ω β) (w : ω) :
    (x >>= f) w =
      match (x w).result with
      | .ok a =>
        ⟨(f a (x w).world).result, (x w).events ++ (f a (x w).world).events,
          (f a (x w).world).world⟩
      | .error failure => ⟨.error failure, (x w).events, (x w).world⟩ := rfl

/-- After an action that returned, the next one runs, and the events follow one another. -/
theorem bind_run_ok {x : Action ω α} {f : α → Action ω β} {w : ω} {a : α}
    (h : (x w).result = .ok a) :
    (x >>= f) w =
      ⟨(f a (x w).world).result, (x w).events ++ (f a (x w).world).events,
        (f a (x w).world).world⟩ := by
  show Action.bind x f w = _
  simp [Action.bind, h]

/-- After an action that failed, nothing else runs. -/
theorem bind_run_error {x : Action ω α} {f : α → Action ω β} {w : ω} {failure : Failure}
    (h : (x w).result = .error failure) :
    (x >>= f) w = ⟨.error failure, (x w).events, (x w).world⟩ := by
  show Action.bind x f w = _
  simp [Action.bind, h]

/-- To return a function of the result is to apply it to the run. -/
theorem bind_pure_run (x : Action ω α) (f : α → β) (w : ω) :
    (x >>= fun a => pure (f a)) w = (x w).map f := by
  cases h : (x w).result with
  | ok a => simp [bind_run_ok h, Run.map, h, Except.map]
  | error failure => simp [bind_run_error h, Run.map, h, Except.map]

end Action

end Workspace
