/-
**Programs that change a state and may raise.**

A program of `EStateM ε σ` that raises leaves the state as it stands at that moment.  What has been written
before is not taken back, so a caller that wants all or nothing has to put its checks in front of its writes.

Some of the exceptions, those of `p`, promise that nothing has happened: a program is atomic in a state if,
whenever it raises one of them, the part of the state that `view` shows is as before.  A program that only
reads may stand in front without any harm; a program that raises no exception of `p` keeps the promise
whatever it writes; and one that has changed the view keeps it only if it raises none from there on.

Main definitions:

* `Transactions.Silent` — a program that changes nothing;
* `Transactions.Atomic`, `Transactions.Spares` — the promise in a state, and programs that cannot break it;
* `Transactions.check` — an exception under a condition.

Main results:

* `Transactions.Silent.bind` — silent programs one after the other are silent;
* `Transactions.Silent.atomic_bind_iff` — **a silent program in front is atomic exactly if what follows is**;
* `Transactions.atomic_iff_spares` — where every exception comes after a change, atomic means to raise none.
-/

import Mathlib.Tactic.Common

set_option autoImplicit false

namespace Transactions

variable {ε σ τ α β : Type} {x : EStateM ε σ α} {f : α → EStateM ε σ β} {s s' : σ}

/-! ### Steps -/

theorem run_bind_eq_ok {b : β} :
    (x >>= f).run s = .ok b s' ↔ ∃ a t, x.run s = .ok a t ∧ (f a).run t = .ok b s' := by
  rw [EStateM.run_bind]
  cases hx : x.run s with
  | ok a t => simp
  | error e t => simp

theorem run_bind_eq_error {e : ε} :
    (x >>= f).run s = .error e s' ↔
      x.run s = .error e s' ∨ ∃ a t, x.run s = .ok a t ∧ (f a).run t = .error e s' := by
  rw [EStateM.run_bind]
  cases hx : x.run s with
  | ok a t => simp
  | error e' t => simp

theorem run_bind_of_ok {a : α} (hx : x.run s = .ok a s') (f : α → EStateM ε σ β) :
    (x >>= f).run s = (f a).run s' := by
  rw [EStateM.run_bind, hx]

/-- A result of a computation without a state, in a program. -/
def result (x : Except ε α) : EStateM ε σ α :=
  match x with
  | .ok a => pure a
  | .error e => throw e

/-- An exception under a condition. -/
def check (p : Prop) [Decidable p] (e : ε) : EStateM ε σ Unit := if p then throw e else pure ()

theorem run_get_bind (f : σ → EStateM ε σ β) (s : σ) : (get >>= f).run s = (f s).run s := rfl

theorem run_result_bind_eq_ok {x : Except ε α} {b : β} :
    (result x >>= f).run s = .ok b s' ↔ ∃ a, x = .ok a ∧ (f a).run s = .ok b s' := by
  rw [EStateM.run_bind]
  cases x with
  | ok a => simp [result, pure, EStateM.pure, EStateM.run]
  | error e =>
    constructor
    · intro h
      cases h
    · rintro ⟨a, ha, -⟩
      cases ha

theorem check_eq_result (p : Prop) [Decidable p] (e : ε) :
    (check p e : EStateM ε σ Unit) = result (if p then .error e else .ok ()) := by
  unfold check
  split <;> rfl

theorem run_check_bind_of_pos {p : Prop} [Decidable p] (hp : p) (e : ε) (f : Unit → EStateM ε σ β) (s : σ) :
    (check p e >>= f).run s = .error e s := by
  rw [check, if_pos hp]
  rfl

theorem run_check_bind_of_not {p : Prop} [Decidable p] (hp : ¬p) (e : ε) (f : Unit → EStateM ε σ β) (s : σ) :
    (check p e >>= f).run s = (f ()).run s := by
  rw [check, if_neg hp, pure_bind]

theorem run_check_bind_eq_ok {p : Prop} [Decidable p] {e : ε} {f : Unit → EStateM ε σ β} {b : β} :
    (check p e >>= f).run s = .ok b s' ↔ ¬p ∧ (f ()).run s = .ok b s' := by
  by_cases hp : p
  · refine iff_of_false ?_ fun h => h.1 hp
    rw [run_check_bind_of_pos hp]
    exact nofun
  · rw [run_check_bind_of_not hp]
    simp [hp]

/-! ### Silence -/

/-- A program that changes nothing. -/
def Silent (x : EStateM ε σ α) : Prop :=
  ∀ s, (∃ a, x.run s = .ok a s) ∨ ∃ e, x.run s = .error e s

theorem silent_pure (a : α) : Silent (pure a : EStateM ε σ α) := fun _ => .inl ⟨a, rfl⟩

theorem silent_get : Silent (get : EStateM ε σ σ) := fun s => .inl ⟨s, rfl⟩

theorem silent_result (x : Except ε α) : Silent (result x : EStateM ε σ α) := by
  intro s
  cases x with
  | ok a => exact .inl ⟨a, rfl⟩
  | error e => exact .inr ⟨e, rfl⟩

theorem silent_check (p : Prop) [Decidable p] (e : ε) : Silent (check p e : EStateM ε σ Unit) := by
  rw [check_eq_result]
  exact silent_result _

theorem Silent.eq_of_ok (h : Silent x) {a : α} (hx : x.run s = .ok a s') : s' = s := by
  rcases h s with ⟨a', ha⟩ | ⟨e, he⟩
  · rw [hx] at ha
    cases ha
    rfl
  · rw [hx] at he
    cases he

theorem Silent.eq_of_error (h : Silent x) {e : ε} (hx : x.run s = .error e s') : s' = s := by
  rcases h s with ⟨a, ha⟩ | ⟨e', he⟩
  · rw [hx] at ha
    cases ha
  · rw [hx] at he
    cases he
    rfl

theorem Silent.bind (h : Silent x) (hf : ∀ a, Silent (f a)) : Silent (x >>= f) := by
  intro s
  rcases h s with ⟨a, ha⟩ | ⟨e, he⟩
  · rcases hf a s with ⟨b, hb⟩ | ⟨e, he⟩
    · exact .inl ⟨b, run_bind_eq_ok.2 ⟨a, s, ha, hb⟩⟩
    · exact .inr ⟨e, run_bind_eq_error.2 (.inr ⟨a, s, ha, he⟩)⟩
  · exact .inr ⟨e, run_bind_eq_error.2 (.inl he)⟩

/-! ### All or nothing -/

variable (p : ε → Prop) (view : σ → τ)

/-- Whenever a program raises an exception of `p`, the view is as before. -/
def Atomic (x : EStateM ε σ α) (s : σ) : Prop := ∀ e s', x.run s = .error e s' → p e → view s' = view s

/-- A program raises no exception of `p`. -/
def Spares (x : EStateM ε σ α) (s : σ) : Prop := ∀ e s', x.run s = .error e s' → ¬p e

variable {p} {view}

theorem Spares.bind (h : Spares p x s) (hf : ∀ a t, x.run s = .ok a t → Spares p (f a) t) :
    Spares p (x >>= f) s := by
  intro e s' he
  rcases run_bind_eq_error.1 he with hx | ⟨a, t, hx, hfa⟩
  · exact h e s' hx
  · exact hf a t hx e s' hfa

theorem Spares.atomic (h : Spares p x s) : Atomic p view x s :=
  fun e s' he hp => absurd hp (h e s' he)

theorem Atomic.of_id (h : Atomic p id x s) : Atomic p view x s :=
  fun e s' he hp => congrArg view (h e s' he hp)

theorem spares_result {x : Except ε α} (h : ∀ e, x = .error e → ¬p e) :
    Spares p (result x : EStateM ε σ α) s := by
  intro e s' he
  cases x with
  | ok a => cases he
  | error e' =>
    cases he
    exact h e rfl

theorem Silent.atomic_bind_iff (h : Silent x) :
    Atomic p view (x >>= f) s ↔ ∀ a, x.run s = .ok a s → Atomic p view (f a) s := by
  constructor
  · intro hatomic a ha e s' he hp
    exact hatomic e s' (run_bind_eq_error.2 (.inr ⟨a, s, ha, he⟩)) hp
  · intro hf e s' he hp
    rcases run_bind_eq_error.1 he with hx | ⟨a, t, hx, hfa⟩
    · rw [h.eq_of_error hx]
    · obtain rfl := h.eq_of_ok hx
      exact hf a hx e s' hfa hp

/-- Where every exception comes after a change of the view, to be atomic is to raise none. -/
theorem atomic_iff_spares (hchanged : ∀ e s', x.run s = .error e s' → view s' ≠ view s) :
    Atomic p view x s ↔ Spares p x s := by
  constructor
  · intro h e s' he hp
    exact hchanged e s' he (h e s' he hp)
  · exact Spares.atomic

end Transactions
