/-
**Forests given by parents.**

A partial function that gives each node its parent makes a forest of the nodes from which walking up
ends.  The way to such a node is the list of the nodes from its root down to it.

Main definitions:

* `ParentForests.Way` — the way to a node.

Main results:

* `ParentForests.Way.unique`, `ParentForests.Way.nodup` — a node has one way, and no node occurs
  twice on it;
* `ParentForests.Way.length_le` — **a way is no longer than a list of nodes closed under parents**;
* `ParentForests.Way.acyclic` — a node with a way lies on no cycle.
-/

import Mathlib.Data.List.Nodup
import Mathlib.Data.List.Perm.Subperm
import Mathlib.Logic.Relation

set_option autoImplicit false

namespace ParentForests

variable {α : Type} {parent : α → Option α}

/-- `Way parent a as`: the nodes from the root down to `a` are `as`. -/
inductive Way (parent : α → Option α) : α → List α → Prop
  | root {a : α} : parent a = none → Way parent a [a]
  | child {a b : α} {as : List α} : parent a = some b → Way parent b as → Way parent a (as ++ [a])

variable {as : List α} {a : α}

theorem Way.unique {bs : List α} (h : Way parent a as) (h' : Way parent a bs) : as = bs := by
  induction h generalizing bs with
  | root hroot =>
    cases h' with
    | root _ => rfl
    | child hparent _ =>
      rw [hroot] at hparent
      cases hparent
  | child hparent _ ih =>
    cases h' with
    | root hroot =>
      rw [hparent] at hroot
      cases hroot
    | child hparent' hb =>
      rw [hparent] at hparent'
      cases hparent'
      rw [ih hb]

theorem Way.of_mem {b : α} (h : Way parent a as) (hb : b ∈ as) :
    ∃ bs, Way parent b bs ∧ bs.length ≤ as.length := by
  induction h with
  | root hroot =>
    rw [List.mem_singleton] at hb
    subst hb
    exact ⟨_, Way.root hroot, Nat.le_refl _⟩
  | @child a c as hparent hc ih =>
    rcases List.mem_append.1 hb with hb | hb
    · obtain ⟨bs, hbs, hle⟩ := ih hb
      refine ⟨bs, hbs, ?_⟩
      rw [List.length_append]
      omega
    · rw [List.mem_singleton] at hb
      subst hb
      exact ⟨_, Way.child hparent hc, Nat.le_refl _⟩

theorem Way.nodup (h : Way parent a as) : as.Nodup := by
  induction h with
  | root _ => exact List.nodup_singleton _
  | @child a b as hparent hb ih =>
    have hnot : a ∉ as := by
      intro hmem
      obtain ⟨bs, hbs, hle⟩ := hb.of_mem hmem
      rw [hbs.unique (Way.child hparent hb), List.length_append, List.length_singleton] at hle
      omega
    rw [← List.concat_eq_append]
    exact ih.concat hnot

theorem Way.subset {nodes : List α} (hclosed : ∀ a ∈ nodes, ∀ b, parent a = some b → b ∈ nodes)
    (h : Way parent a as) (ha : a ∈ nodes) : as ⊆ nodes := by
  induction h with
  | root _ => exact List.cons_subset.2 ⟨ha, List.nil_subset _⟩
  | child hparent _ ih =>
    exact List.append_subset.2 ⟨ih (hclosed _ ha _ hparent), List.cons_subset.2 ⟨ha, List.nil_subset _⟩⟩

/-- **A way is no longer than a list of nodes closed under parents.** -/
theorem Way.length_le {nodes : List α} (hclosed : ∀ a ∈ nodes, ∀ b, parent a = some b → b ∈ nodes)
    (h : Way parent a as) (ha : a ∈ nodes) : as.length ≤ nodes.length :=
  (List.subperm_of_subset h.nodup (h.subset hclosed ha)).length_le

theorem Way.of_transGen {b : α} (h : Way parent a as)
    (hab : Relation.TransGen (fun a b => parent a = some b) a b) :
    ∃ bs, Way parent b bs ∧ bs.length < as.length := by
  have hstep : ∀ {c d : α} {cs : List α}, Way parent c cs → parent c = some d →
      ∃ ds, Way parent d ds ∧ ds.length < cs.length := by
    intro c d cs hc hcd
    cases hc with
    | root hroot =>
      rw [hroot] at hcd
      cases hcd
    | child hparent hway =>
      cases hparent.symm.trans hcd
      refine ⟨_, hway, ?_⟩
      rw [List.length_append, List.length_singleton]
      omega
  induction hab with
  | single hab => exact hstep h hab
  | tail _ hbc ih =>
    obtain ⟨bs, hbs, hlt⟩ := ih
    obtain ⟨cs, hcs, hlt'⟩ := hstep hbs hbc
    exact ⟨cs, hcs, Nat.lt_trans hlt' hlt⟩

/-- **A node with a way lies on no cycle.** -/
theorem Way.acyclic (h : Way parent a as) :
    ¬Relation.TransGen (fun a b => parent a = some b) a a := by
  intro hcycle
  obtain ⟨bs, hbs, hlt⟩ := h.of_transGen hcycle
  rw [hbs.unique h] at hlt
  exact Nat.lt_irrefl _ hlt

end ParentForests
