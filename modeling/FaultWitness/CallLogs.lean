/-
**Programs that record their calls.**

A program is run on the log of what has been called so far, newest first, and may raise; what it
calls may answer as the log allows it to.  A block that catches exceptions is a program that gives
the outcome of another as its value.

Main definitions:

* `CallLogs.Run` — programs, with `CallLogs.attempt` and `CallLogs.emit`.

Main results:

* `CallLogs.bind_apply`, `CallLogs.bind_of_ok` — one program after another.
-/

import Mathlib.Data.List.Basic

set_option autoImplicit false

namespace CallLogs

/-- A program with exceptions `E` over a log of events `V`. -/
def Run (E V α : Type) : Type := List V → Except E α × List V

variable {E V α β : Type}

instance : Monad (Run E V) where
  pure a log := (.ok a, log)
  bind x f log :=
    match x log with
    | (.ok a, log') => f a log'
    | (.error err, log') => (.error err, log')

/-- Raising an exception, or not. -/
def lift (r : Except E α) : Run E V α := fun log => (r, log)

/-- The outcome of a program, with its exceptions caught. -/
def attempt (x : Run E V α) : Run E V (Except E α) := fun log => (.ok (x log).1, (x log).2)

/-- Adding an event. -/
def emit (event : V) : Run E V Unit := fun log => (.ok (), event :: log)

theorem bind_apply (x : Run E V α) (f : α → Run E V β) (log : List V) :
    (x >>= f) log = match x log with
      | (.ok a, log') => f a log'
      | (.error err, log') => (.error err, log') := rfl

theorem bind_of_ok {x : Run E V α} {log log' : List V} {a : α} (h : x log = (.ok a, log'))
    (f : α → Run E V β) : (x >>= f) log = f a log' := by
  rw [bind_apply, h]

theorem bind_of_error {x : Run E V α} {log log' : List V} {err : E} (h : x log = (.error err, log'))
    (f : α → Run E V β) : (x >>= f) log = (.error err, log') := by
  rw [bind_apply, h]

@[simp] theorem lift_apply (r : Except E α) (log : List V) : lift r log = (r, log) := rfl

theorem attempt_apply (x : Run E V α) (log : List V) : attempt x log = (.ok (x log).1, (x log).2) :=
  rfl

end CallLogs
