/-
**Runs of a labelled transition system.**

Every concurrent component of the development is a partial step function `step : S → L → Option S`:
a label says which party moves and with which inputs, and `none` says that the move is not enabled.
An interleaving is then nothing but a list of labels, and a statement about all interleavings is a
statement about all states that some list of labels reaches.

The reachability relation carries a condition `C` on the steps it may take.  With `C` trivial it is
plain reachability; with a proper `C` it describes the runs *all of whose steps* meet a condition
on the state before the step and the label, which is how a result that holds only outside a defect
is stated.

Main definitions:

* `Runs.Reaches` — reachability by steps that meet a condition;
* `Runs.test` — executing a list of labels with a test before every step and one at the end;
* `Runs.run` — executing a list of labels.

Main results:

* `Runs.Reaches.invariant` — what holds initially and is kept by every step holds of every state
  that is reached;
* `Runs.exists_reaches_of_test` — a list of labels that executes, each step passing a test, is a
  run, which is how a concrete run enters a proof.
-/

import Mathlib.Data.List.AList

set_option autoImplicit false

namespace Runs

variable {S L : Type}

/-- The states reached from `a` by steps whose label and pre-state satisfy `C`. -/
inductive Reaches (step : S → L → Option S) (C : S → L → Prop) (a : S) : S → Prop
  | refl : Reaches step C a a
  | tail {b c : S} {l : L} : Reaches step C a b → C b l → step b l = some c → Reaches step C a c

/-- Executing a list of labels, with the test `c` before every step and the test `p` at the end. -/
def test (step : S → L → Option S) (c : S → L → Bool) (p : S → Bool) : S → List L → Bool
  | a, [] => p a
  | a, l :: ls =>
    c a l && match step a l with
      | some b => test step c p b ls
      | none => false

/-- Executing a list of labels. -/
def run (step : S → L → Option S) : S → List L → Option S
  | a, [] => some a
  | a, l :: ls => (step a l).bind fun b => run step b ls

theorem run_append (step : S → L → Option S) (a : S) (ls ls' : List L) :
    run step a (ls ++ ls') = (run step a ls).bind fun b => run step b ls' := by
  induction ls generalizing a with
  | nil => rfl
  | cons l ls ih =>
    rw [List.cons_append, run, run, Option.bind_assoc]
    exact congrArg _ (funext fun b => ih b)

/-- Any state is reached without a condition on the steps. -/
abbrev Reachable (step : S → L → Option S) (a : S) : S → Prop := Reaches step (fun _ _ => True) a

namespace Reaches

variable {step : S → L → Option S} {C D : S → L → Prop} {a b c : S}

/-- **The invariant rule**: what holds of the first state and is kept by every step that meets the
condition holds of every state reached. -/
theorem invariant {I : S → Prop} (h₀ : I a)
    (hstep : ∀ s l s', I s → C s l → step s l = some s' → I s') (h : Reaches step C a b) : I b := by
  induction h with
  | refl => exact h₀
  | tail _ hC hs ih => exact hstep _ _ _ ih hC hs

theorem mono (hCD : ∀ s l, C s l → D s l) (h : Reaches step C a b) : Reaches step D a b := by
  induction h with
  | refl => exact refl
  | tail _ hC hs ih => exact ih.tail (hCD _ _ hC) hs

theorem reachable (h : Reaches step C a b) : Reachable step a b :=
  h.mono fun _ _ _ => trivial

theorem trans (h₁ : Reaches step C a b) (h₂ : Reaches step C b c) : Reaches step C a c := by
  induction h₂ with
  | refl => exact h₁
  | tail _ hC hs ih => exact ih.tail hC hs

theorem single {l : L} (hC : C a l) (hs : step a l = some b) : Reaches step C a b :=
  refl.tail hC hs

/-- A list of labels that executes is a run, if each label meets the condition in every state. -/
theorem of_run (ls : List L) (hC : ∀ l ∈ ls, ∀ s, C s l) (h : run step a ls = some b) :
    Reaches step C a b := by
  induction ls generalizing a with
  | nil =>
    cases h
    exact refl
  | cons l ls ih =>
    obtain ⟨m, hs, hrest⟩ := Option.bind_eq_some_iff.1 h
    have htail : Reaches step C m b := ih (fun l hl => hC l (List.mem_cons_of_mem _ hl)) hrest
    exact (single (hC l List.mem_cons_self a) hs).trans htail

end Reaches

theorem Reaches.exists_of_test {step : S → L → Option S} {C : S → L → Prop} {c : S → L → Bool}
    {p : S → Bool} {a : S} (hc : ∀ s l, Reaches step C a s → c s l = true → C s l) {b : S}
    (hb : Reaches step C a b) {ls : List L} (h : test step c p b ls = true) :
    ∃ b, Reaches step C a b ∧ p b = true := by
  induction ls generalizing b with
  | nil => exact ⟨b, hb, h⟩
  | cons l ls ih =>
    simp only [test, Bool.and_eq_true] at h
    obtain ⟨hl, h⟩ := h
    split at h
    · rename_i m hs
      exact ih (hb.tail (hc b l hb hl) hs) h
    · exact absurd h (by simp)

/-- A list of labels that passes its tests is a run, and reaches a state that passes the last
one. -/
theorem exists_reaches_of_test (step : S → L → Option S) {C : S → L → Prop} {c : S → L → Bool}
    {p : S → Bool} {a : S} (hc : ∀ s l, Reaches step C a s → c s l = true → C s l) (ls : List L)
    (h : test step c p a ls = true) : ∃ b, Reaches step C a b ∧ p b = true :=
  Reaches.exists_of_test hc Reaches.refl h

theorem exists_reachable_of_test (step : S → L → Option S) {p : S → Bool} {a : S} (ls : List L)
    (h : test step (fun _ _ => true) p a ls = true) : ∃ b, Reachable step a b ∧ p b = true :=
  exists_reaches_of_test step (fun _ _ _ _ => trivial) ls h

end Runs
