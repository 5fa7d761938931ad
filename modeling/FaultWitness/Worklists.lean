/-
**Reachability by a worklist.**

A breadth-first walk keeps the vertices it has met and a queue of those whose successors it has not
looked at yet.  It takes the first vertex of the queue, adds each successor that it meets for the
first time to both, and ends when the queue is empty.  The graph is any function from vertices to
lists of successors, with cycles, parallel edges and loops.

The loop is run with fuel, and has no result when the fuel is used up.  Every vertex enters the
queue once, so as many steps as there are vertices suffice.

Main definitions:

* `Worklists.State`, `Worklists.State.push` — the state of the loop, and one successor of the inner
  loop;
* `Worklists.walk` — the loop;
* `Worklists.Reached` — what can be reached from a list of starts;
* `Worklists.Invariant` — what the loop keeps.

Main results:

* `Worklists.Invariant.pop` — a step of the loop keeps the invariant;
* `Worklists.Invariant.walk_eq_some` — a walk that ends has met exactly what can be reached;
* `Worklists.exists_walk` — **the walk ends**, within as many steps as there are vertices;
* `Worklists.walk_mono` — and more fuel does not change its result.
-/

import Mathlib.Data.Finset.Card
import Mathlib.Data.Finset.SDiff
import Mathlib.Logic.Relation

set_option autoImplicit false

namespace Worklists

variable {α : Type} [DecidableEq α]

/-! ### The loop -/

/-- The vertices met so far, and those of them that are still to be looked at. -/
structure State (α : Type) where
  visited : Finset α
  queue : List α

/-- A successor: it is added where it is met for the first time. -/
def State.push (s : State α) (target : α) : State α :=
  if target ∈ s.visited then s else ⟨insert target s.visited, s.queue ++ [target]⟩

/-- The loop, for a number of steps. -/
def walk (graph : α → List α) : ℕ → State α → Option (Finset α)
  | 0, _ => none
  | _ + 1, ⟨visited, []⟩ => some visited
  | fuel + 1, ⟨visited, current :: queue⟩ =>
    walk graph fuel ((graph current).foldl State.push ⟨visited, queue⟩)

variable {graph : α → List α} {visited : Finset α} {s : State α} {fuel : ℕ}

theorem walk_mono {fuel' : ℕ} (hle : fuel ≤ fuel') (h : walk graph fuel s = some visited) :
    walk graph fuel' s = some visited := by
  induction fuel generalizing s fuel' with
  | zero => cases h
  | succ fuel ih =>
    obtain ⟨more, rfl⟩ : ∃ more, fuel' = more + 1 := ⟨fuel' - 1, by omega⟩
    obtain ⟨seen, queue⟩ := s
    cases queue with
    | nil => exact h
    | cons current queue => exact (ih (by omega) h : walk graph more _ = some visited)

/-! ### The inner loop -/

theorem visited_foldl_push (targets : List α) (s : State α) :
    (targets.foldl State.push s).visited = s.visited ∪ targets.toFinset := by
  induction targets generalizing s with
  | nil => simp
  | cons target targets ih =>
    rw [List.foldl_cons, ih, List.toFinset_cons, Finset.union_insert, ← Finset.insert_union]
    unfold State.push
    split
    · rename_i hmem
      rw [Finset.insert_eq_of_mem hmem]
    · rfl

/-- It puts those into the queue that had not been met. -/
theorem mem_queue_foldl_push {targets : List α} {a : α} :
    a ∈ (targets.foldl State.push s).queue ↔
      a ∈ s.queue ∨ a ∈ targets ∧ a ∉ s.visited := by
  induction targets generalizing s with
  | nil => simp
  | cons target targets ih =>
    rw [List.foldl_cons, ih, List.mem_cons]
    unfold State.push
    split
    · rename_i hmem
      constructor
      · rintro (hq | ⟨ha, hnot⟩)
        · exact Or.inl hq
        · exact Or.inr ⟨Or.inr ha, hnot⟩
      · rintro (hq | ⟨rfl | ha, hnot⟩)
        · exact Or.inl hq
        · exact absurd hmem hnot
        · exact Or.inr ⟨ha, hnot⟩
    · rename_i hmem
      simp only [List.mem_append, List.mem_singleton, Finset.mem_insert, not_or]
      constructor
      · rintro ((hq | rfl) | ⟨ha, -, hnot⟩)
        · exact Or.inl hq
        · exact Or.inr ⟨Or.inl rfl, hmem⟩
        · exact Or.inr ⟨Or.inr ha, hnot⟩
      · rintro (hq | ⟨rfl | ha, hnot⟩)
        · exact Or.inl (Or.inl hq)
        · exact Or.inl (Or.inr rfl)
        · by_cases heq : a = target
          · exact Or.inl (Or.inr heq)
          · exact Or.inr ⟨ha, heq, hnot⟩

/-- Work that is left: the queue, and the vertices that may still enter it. -/
def State.left (vertices : Finset α) (s : State α) : ℕ :=
  s.queue.length + (vertices \ s.visited).card

variable {vertices : Finset α}

theorem left_push {target : α} (h : target ∈ vertices) :
    (s.push target).left vertices = s.left vertices := by
  unfold State.push
  split
  · rfl
  · rename_i hnew
    have hmem : target ∈ vertices \ s.visited := Finset.mem_sdiff.2 ⟨h, hnew⟩
    have hpos := Finset.card_pos.2 ⟨target, hmem⟩
    rw [State.left, State.left, List.length_append, List.length_singleton, Finset.sdiff_insert,
      Finset.card_erase_of_mem hmem]
    omega

theorem left_foldl_push {targets : List α} (h : ∀ target ∈ targets, target ∈ vertices)
    (s : State α) : (targets.foldl State.push s).left vertices = s.left vertices := by
  induction targets generalizing s with
  | nil => rfl
  | cons target targets ih =>
    rw [List.foldl_cons, ih fun b hb => h b (List.mem_cons_of_mem _ hb),
      left_push (h target List.mem_cons_self)]

/-! ### What the loop keeps -/

/-- A vertex that some path from a start leads to. -/
def Reached (graph : α → List α) (starts : List α) (a : α) : Prop :=
  ∃ start ∈ starts, Relation.ReflTransGen (fun b c => c ∈ graph b) start a

/-- What is met can be reached, and what has left the queue has all its successors met. -/
structure Invariant (graph : α → List α) (starts : List α) (s : State α) : Prop where
  met : ∀ a ∈ starts, a ∈ s.visited
  queued : ∀ a ∈ s.queue, a ∈ s.visited
  sound : ∀ a ∈ s.visited, Reached graph starts a
  done : ∀ a ∈ s.visited, a ∉ s.queue → ∀ b ∈ graph a, b ∈ s.visited

theorem Invariant.start (graph : α → List α) (starts : List α) :
    Invariant graph starts ⟨starts.toFinset, starts⟩ where
  met _ ha := List.mem_toFinset.2 ha
  queued _ ha := List.mem_toFinset.2 ha
  sound a ha := ⟨a, List.mem_toFinset.1 ha, .refl⟩
  done _ ha hnot := absurd (List.mem_toFinset.1 ha) hnot

variable {starts : List α}

/-- **A step of the loop keeps the invariant.** -/
theorem Invariant.pop {queue : List α} {current : α}
    (h : Invariant graph starts ⟨visited, current :: queue⟩) :
    Invariant graph starts ((graph current).foldl State.push ⟨visited, queue⟩) where
  met a ha := by
    rw [visited_foldl_push]
    exact Finset.mem_union_left _ (h.met a ha)
  queued a ha := by
    rw [visited_foldl_push, Finset.mem_union, List.mem_toFinset]
    rcases mem_queue_foldl_push.1 ha with hq | ⟨ha, -⟩
    · exact Or.inl (h.queued a (List.mem_cons_of_mem _ hq))
    · exact Or.inr ha
  sound a ha := by
    rw [visited_foldl_push, Finset.mem_union, List.mem_toFinset] at ha
    rcases ha with ha | ha
    · exact h.sound a ha
    · obtain ⟨start, hstart, hpath⟩ := h.sound current (h.queued current List.mem_cons_self)
      exact ⟨start, hstart, hpath.tail ha⟩
  done a ha hnot b hb := by
    rw [visited_foldl_push, Finset.mem_union, List.mem_toFinset] at ha ⊢
    rw [mem_queue_foldl_push, not_or, not_and_not_right] at hnot
    have hvisited : a ∈ visited := ha.elim id hnot.2
    by_cases heq : a = current
    · exact Or.inr (heq ▸ hb)
    · refine Or.inl (h.done a hvisited ?_ b hb)
      rw [List.mem_cons, not_or]
      exact ⟨heq, hnot.1⟩

omit [DecidableEq α] in
theorem Invariant.mem_visited_iff (h : Invariant graph starts ⟨visited, []⟩) {a : α} :
    a ∈ visited ↔ Reached graph starts a := by
  refine ⟨h.sound a, ?_⟩
  rintro ⟨start, hstart, hpath⟩
  induction hpath with
  | refl => exact h.met start hstart
  | tail _ hedge ih => exact h.done _ ih List.not_mem_nil _ hedge

/-- **A walk that ends has met exactly what can be reached.** -/
theorem Invariant.walk_eq_some (hs : Invariant graph starts s)
    (h : walk graph fuel s = some visited) {a : α} : a ∈ visited ↔ Reached graph starts a := by
  induction fuel generalizing s with
  | zero => cases h
  | succ fuel ih =>
    obtain ⟨seen, queue⟩ := s
    cases queue with
    | nil =>
      cases h
      exact hs.mem_visited_iff
    | cons current queue => exact ih hs.pop h

/-! ### The loop ends -/

theorem exists_walk_of_left (hgraph : ∀ a, ∀ b ∈ graph a, b ∈ vertices)
    (h : s.left vertices < fuel) : ∃ visited, walk graph fuel s = some visited := by
  induction fuel generalizing s with
  | zero => omega
  | succ fuel ih =>
    obtain ⟨seen, queue⟩ := s
    cases queue with
    | nil => exact ⟨seen, rfl⟩
    | cons current queue =>
      refine ih ?_
      rw [left_foldl_push (hgraph current)]
      simp only [State.left, List.length_cons] at h ⊢
      omega

/-- **The walk ends**: each vertex is taken from the queue at most once. -/
theorem exists_walk (hgraph : ∀ a, ∀ b ∈ graph a, b ∈ vertices) (hnodup : starts.Nodup)
    (hstarts : ∀ a ∈ starts, a ∈ vertices) (h : vertices.card < fuel) :
    ∃ visited, walk graph fuel ⟨starts.toFinset, starts⟩ = some visited := by
  refine exists_walk_of_left hgraph (lt_of_le_of_lt (le_of_eq ?_) h)
  have hsub : starts.toFinset ⊆ vertices := fun a ha => hstarts a (List.mem_toFinset.1 ha)
  rw [State.left, ← List.toFinset_card_of_nodup hnodup, Nat.add_comm]
  exact Finset.card_sdiff_add_card_eq_card hsub

end Worklists
