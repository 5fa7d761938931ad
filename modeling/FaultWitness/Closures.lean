/-
**The closure of a set in a finite graph.**

A graph is a list of nodes, each with the nodes it depends on.  The loop adds to a set all nodes that
depend on one of its members, until nothing is added.

Main definitions:

* `Closures.closure` — the loop;
* `Closures.Reached` — what depends on a member of the set, in however many steps.

Main results:

* `Closures.mem_closure` — **the loop ends with what is reached**.
-/

import Mathlib.Data.Finset.Card
import Mathlib.Data.Finset.Union
import Mathlib.Data.Finset.SDiff

set_option autoImplicit false

namespace Closures

variable {α : Type} [DecidableEq α]

/-- The nodes that depend on a member of the set. -/
def downstream (graph : List (α × List α)) (nodes : Finset α) : Finset α :=
  ((graph.filter fun e => e.2.any (· ∈ nodes)).map Prod.fst).toFinset

variable {graph : List (α × List α)} {nodes : Finset α}

theorem mem_downstream {a : α} :
    a ∈ downstream graph nodes ↔ ∃ e ∈ graph, e.1 = a ∧ ∃ d ∈ e.2, d ∈ nodes := by
  simp only [downstream, List.mem_toFinset, List.mem_map, List.mem_filter, List.any_eq_true,
    decide_eq_true_eq]
  constructor
  · rintro ⟨e, ⟨he, hd⟩, ha⟩
    exact ⟨e, he, ha, hd⟩
  · rintro ⟨e, he, ha, hd⟩
    exact ⟨e, ⟨he, hd⟩, ha⟩

theorem card_decreases (h : nodes ∪ downstream graph nodes ≠ nodes) :
    ((graph.map Prod.fst).toFinset \ (nodes ∪ downstream graph nodes)).card <
      ((graph.map Prod.fst).toFinset \ nodes).card := by
  obtain ⟨a, ha, hnot⟩ : ∃ a ∈ downstream graph nodes, a ∉ nodes := by
    by_contra hall
    push Not at hall
    exact h (Finset.union_eq_left.2 hall)
  obtain ⟨e, he, hea, -⟩ := mem_downstream.1 ha
  refine Finset.card_lt_card ((Finset.ssubset_iff_of_subset ?_).2 ⟨a, ?_, ?_⟩)
  · exact Finset.sdiff_subset_sdiff subset_rfl Finset.subset_union_left
  · exact Finset.mem_sdiff.2 ⟨List.mem_toFinset.2 (List.mem_map.2 ⟨e, he, hea⟩), hnot⟩
  · exact fun hmem => (Finset.mem_sdiff.1 hmem).2 (Finset.mem_union_right _ ha)

/-- Adding what depends on the set until nothing is added. -/
def closure (graph : List (α × List α)) (nodes : Finset α) : Finset α :=
  if nodes ∪ downstream graph nodes = nodes then nodes
  else closure graph (nodes ∪ downstream graph nodes)
termination_by ((graph.map Prod.fst).toFinset \ nodes).card
decreasing_by exact card_decreases ‹_›

/-- What is in the set, or depends on something that is reached. -/
inductive Reached (graph : List (α × List α)) (nodes : Finset α) : α → Prop
  | start {a : α} (h : a ∈ nodes) : Reached graph nodes a
  | step {e : α × List α} (he : e ∈ graph) {d : α} (hd : d ∈ e.2) (h : Reached graph nodes d) :
      Reached graph nodes e.1

omit [DecidableEq α] in
theorem Reached.mono {others : Finset α} {a : α} (h : Reached graph nodes a)
    (hsub : ∀ b ∈ nodes, Reached graph others b) : Reached graph others a := by
  induction h with
  | start h => exact hsub _ h
  | step he hd _ ih => exact .step he hd ih

/-- **The loop ends with what is reached.** -/
theorem mem_closure (nodes : Finset α) {a : α} :
    a ∈ closure graph nodes ↔ Reached graph nodes a := by
  induction nodes using closure.induct graph with
  | case1 nodes hfixed =>
    rw [closure, if_pos hfixed]
    refine ⟨.start, fun h => ?_⟩
    induction h with
    | start h => exact h
    | step he hd _ ih =>
      rw [← hfixed]
      exact Finset.mem_union_right _ (mem_downstream.2 ⟨_, he, rfl, _, hd, ih⟩)
  | case2 nodes hgrows ih =>
    rw [closure, if_neg hgrows, ih]
    refine ⟨fun h => h.mono fun b hb => ?_, fun h => h.mono fun b hb =>
      .start (Finset.mem_union_left _ hb)⟩
    rcases Finset.mem_union.1 hb with hb | hb
    · exact .start hb
    · obtain ⟨e, he, rfl, d, hd, hmem⟩ := mem_downstream.1 hb
      exact .step he hd (.start hmem)

end Closures
