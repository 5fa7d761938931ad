/-
**Executions with observations, and what one party sees of them.**

A component that answers its callers is a step function that also yields an observation.  An
execution is then a list of labels with their observations, and it is determined by the labels.

Each label belongs to a party.  A party is not interfered with by the others if the labels of the
others can be taken out of an execution without changing what the party observes.  The way to prove
it is to say what part of a state the party sees (`view`): its own steps do the same on that part
alone, and the steps of others leave it as it is.

Main definitions:

* `Unwinding.Executes` — the executions of a step function with observations;
* `Unwinding.Justified` — every entry of a history is justified by the entries before it;
* `Unwinding.test` — executing a list of labels with a test before every step and one at the end.

Main results:

* `Unwinding.Executes.invariant` — what holds initially and is kept by every step holds of every
  execution;
* `Unwinding.Executes.filter` — **the unwinding theorem**.
-/

import Mathlib.Data.List.AList

set_option autoImplicit false

namespace Unwinding

variable {S L O : Type}

/-- The executions from `a` by steps that meet `C`, with the labels and observations in order. -/
inductive Executes (step : S → L → Option (S × O)) (C : S → L → Prop) (a : S) :
    List (L × O) → S → Prop
  | refl : Executes step C a [] a
  | tail {trace : List (L × O)} {b c : S} {l : L} {o : O} : Executes step C a trace b → C b l →
      step b l = some (c, o) → Executes step C a (trace ++ [(l, o)]) c

namespace Executes

variable {step : S → L → Option (S × O)} {C D : S → L → Prop} {a b : S} {trace : List (L × O)}

/-- The invariant rule, for a property of the execution so far and the state it has reached. -/
theorem invariant {I : List (L × O) → S → Prop} (h₀ : I [] a)
    (hstep : ∀ tr s l s' o, I tr s → C s l → step s l = some (s', o) → I (tr ++ [(l, o)]) s')
    (h : Executes step C a trace b) : I trace b := by
  induction h with
  | refl => exact h₀
  | tail _ hC hs ih => exact hstep _ _ _ _ _ ih hC hs

/-- **The unwinding theorem.**  The labels that `own` marks are those of a party, and `view` is what
it sees of a state. -/
theorem filter (own : L → Bool) (view : S → S)
    (hown : ∀ s l s' o, own l = true → C s l → step s l = some (s', o) →
      D (view s) l ∧ step (view s) l = some (view s', o))
    (hother : ∀ s l s' o, own l = false → C s l → step s l = some (s', o) → view s' = view s)
    (h : Executes step C a trace b) :
    Executes step D (view a) (trace.filter fun p => own p.1) (view b) := by
  induction h with
  | refl => exact refl
  | @tail tr s s' l o _ hC hs ih =>
    rw [List.filter_append]
    cases hl : own l with
    | true =>
      obtain ⟨hD, hs'⟩ := hown _ _ _ _ hl hC hs
      have hmark : List.filter (fun p : L × O => own p.1) [(l, o)] = [(l, o)] := by
        simp [hl]
      rw [hmark]
      exact ih.tail hD hs'
    | false =>
      have hmark : List.filter (fun p : L × O => own p.1) [(l, o)] = [] := by
        simp [hl]
      rw [hmark, List.append_nil, hother _ _ _ _ hl hC hs]
      exact ih

end Executes

/-! ### Histories -/

section Histories

variable {E : Type} {P : List E → E → Prop} {history : List E}

/-- Every entry of the history has the property `P` with respect to the entries before it. -/
def Justified (P : List E → E → Prop) (history : List E) : Prop :=
  ∀ before e after, history = before ++ e :: after → P before e

theorem justified_nil : Justified P [] := by
  intro before e after h
  exact absurd h (by simp)

theorem Justified.snoc (h : Justified P history) {e : E} (he : P history e) :
    Justified P (history ++ [e]) := by
  intro before e' after heq
  rcases List.eq_nil_or_concat' after with rfl | ⟨rest, last, rfl⟩
  · obtain ⟨rfl, hlast⟩ := List.append_inj' heq rfl
    cases hlast
    exact he
  · rw [← List.cons_append, ← List.append_assoc] at heq
    exact h before e' rest (List.append_inj' heq rfl).1

end Histories

/-! ### Concrete executions -/

/-- Executing a list of labels, with the test `c` before every step and the test `p` on the whole
execution at the end. -/
def test (step : S → L → Option (S × O)) (c : S → L → Bool) (p : List (L × O) → S → Bool) :
    List (L × O) → S → List L → Bool
  | trace, a, [] => p trace a
  | trace, a, l :: ls =>
    c a l && match step a l with
      | some (b, o) => test step c p (trace ++ [(l, o)]) b ls
      | none => false

theorem Executes.exists_of_test {step : S → L → Option (S × O)} {C : S → L → Prop}
    {c : S → L → Bool} {p : List (L × O) → S → Bool} (hc : ∀ s l, c s l = true → C s l) {a b : S}
    {trace : List (L × O)} (hb : Executes step C a trace b) {ls : List L}
    (h : test step c p trace b ls = true) :
    ∃ trace' b', Executes step C a trace' b' ∧ p trace' b' = true := by
  induction ls generalizing trace b with
  | nil => exact ⟨trace, b, hb, h⟩
  | cons l ls ih =>
    simp only [test, Bool.and_eq_true] at h
    obtain ⟨hl, h⟩ := h
    split at h
    · rename_i m o hs
      exact ih (hb.tail (hc b l hl) hs) h
    · exact absurd h (by simp)

theorem exists_executes_of_test (step : S → L → Option (S × O)) {C : S → L → Prop}
    {c : S → L → Bool} {p : List (L × O) → S → Bool} (hc : ∀ s l, c s l = true → C s l) {a : S}
    (ls : List L) (h : test step c p [] a ls = true) :
    ∃ trace b, Executes step C a trace b ∧ p trace b = true :=
  Executes.exists_of_test hc .refl h

end Unwinding
