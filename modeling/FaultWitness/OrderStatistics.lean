/-
**Sorted lists, their order statistics, and means.**

What a percentile of a list of numbers is and what it keeps: a position of the sorted list.  A position of
the list with every number turned around is the mirrored position, and a mean stays between the bounds of
what it is taken of.

This module names nothing of a program; the bootstrap intervals and the digests of files use it.

Main definitions:

* `OrderStatistics.sorted` — a list in ascending order;
* `OrderStatistics.mean` — the mean of a list.

Main results:

* `OrderStatistics.sorted_eq_of_perm` — the sorted list does not depend on the order of the list;
* `OrderStatistics.getElem?_sorted_map` — **an antitone map mirrors the order statistics**;
* `OrderStatistics.le_mean`, `OrderStatistics.mean_le` — a mean is within bounds;
* `OrderStatistics.mean_map_sub` — the mean of differences is the difference of means;
* `OrderStatistics.mean_flatMap_replicate` — a mean of numbers of which each counts as often.
-/

import Mathlib.Data.List.Sort
import Mathlib.Algebra.Order.Field.Basic
import Mathlib.Algebra.Order.BigOperators.Group.List
import Mathlib.Algebra.BigOperators.Group.List.Basic
import Mathlib.Tactic.Ring

set_option autoImplicit false

namespace OrderStatistics

/-! ### Sorted lists -/

section Sorted

variable {α β : Type} [LinearOrder α] [LinearOrder β]

/-- A list in ascending order. -/
def sorted (xs : List α) : List α := xs.insertionSort (· ≤ ·)

theorem sorted_perm (xs : List α) : (sorted xs).Perm xs := List.perm_insertionSort _ xs

@[simp] theorem length_sorted (xs : List α) : (sorted xs).length = xs.length :=
  List.length_insertionSort _ xs

variable {xs : List α}

@[simp] theorem mem_sorted {x : α} : x ∈ sorted xs ↔ x ∈ xs :=
  List.mem_insertionSort _

theorem pairwise_sorted (xs : List α) : (sorted xs).Pairwise (· ≤ ·) :=
  List.pairwise_insertionSort _ xs

theorem eq_sorted {ys : List α} (h : xs.Perm ys) (hxs : xs.Pairwise (· ≤ ·)) : xs = sorted ys :=
  (h.trans (sorted_perm ys).symm).eq_of_pairwise' hxs (pairwise_sorted ys)

theorem sorted_eq_of_perm {ys : List α} (h : xs.Perm ys) : sorted xs = sorted ys :=
  eq_sorted ((sorted_perm xs).trans h) (pairwise_sorted xs)

theorem getElem_sorted_le {i j : ℕ} (hij : i ≤ j) (hj : j < (sorted xs).length) :
    (sorted xs)[i] ≤ (sorted xs)[j] := by
  rcases Nat.eq_or_lt_of_le hij with rfl | hlt
  · exact le_rfl
  · exact List.pairwise_iff_getElem.1 (pairwise_sorted xs) i j (by omega) hj hlt

theorem sorted_map {f : α → β} (hf : Antitone f) (xs : List α) :
    sorted (xs.map f) = ((sorted xs).map f).reverse := by
  symm
  refine eq_sorted ?_ ?_
  · exact (List.reverse_perm _).trans ((sorted_perm xs).map f)
  · rw [List.pairwise_reverse, List.pairwise_map]
    refine (pairwise_sorted xs).imp ?_
    intro a b hab
    exact hf hab

/-- **An antitone map mirrors the order statistics.** -/
theorem getElem?_sorted_map {f : α → β} (hf : Antitone f) {i : ℕ} (hi : i < xs.length) :
    (sorted (xs.map f))[i]? = ((sorted xs)[xs.length - 1 - i]?).map f := by
  rw [sorted_map hf, List.getElem?_reverse (by simpa using hi), List.length_map, length_sorted,
    List.getElem?_map]

end Sorted

/-! ### Means -/

section Mean

theorem length_flatMap_replicate {α : Type} (n : ℕ) (xs : List α) :
    (xs.flatMap (List.replicate n)).length = n * xs.length := by
  induction xs with
  | nil => simp
  | cons x xs ih =>
    rw [List.flatMap_cons, List.length_append, ih, List.length_replicate, List.length_cons]
    ring

variable {α ι : Type} [Field α]

/-- The mean of a list. -/
def mean (xs : List α) : α := xs.sum / xs.length

variable {xs : List α}

theorem mean_eq_of_perm {ys : List α} (h : xs.Perm ys) : mean xs = mean ys := by
  unfold mean
  rw [h.sum_eq, h.length_eq]

theorem mean_map_neg (f : ι → α) (is : List ι) :
    mean (is.map fun i => -f i) = -mean (is.map f) := by
  have hsum : (is.map fun i => -f i).sum = -(is.map f).sum := by
    induction is with
    | nil => simp
    | cons i is ih =>
      simp only [List.map_cons, List.sum_cons, ih]
      ring
  unfold mean
  rw [hsum, neg_div, List.length_map, List.length_map]

theorem mean_map_sub (f g : ι → α) (is : List ι) :
    mean (is.map fun i => f i - g i) = mean (is.map f) - mean (is.map g) := by
  have hsum : (is.map fun i => f i - g i).sum = (is.map f).sum - (is.map g).sum := by
    induction is with
    | nil => simp
    | cons i is ih =>
      simp only [List.map_cons, List.sum_cons, ih]
      ring
  unfold mean
  rw [hsum, sub_div, List.length_map, List.length_map, List.length_map]

theorem sum_flatMap_replicate (n : ℕ) (xs : List α) :
    (xs.flatMap (List.replicate n)).sum = n * xs.sum := by
  induction xs with
  | nil => simp
  | cons x xs ih =>
    rw [List.flatMap_cons, List.sum_append, ih, List.sum_replicate, List.sum_cons, nsmul_eq_mul]
    ring

theorem mean_flatMap_replicate [CharZero α] {n : ℕ} (hpos : 0 < n) (xs : List α) :
    mean (xs.flatMap (List.replicate n)) = mean xs := by
  have hne : (n : α) ≠ 0 := by
    exact_mod_cast hpos.ne'
  unfold mean
  rw [sum_flatMap_replicate, length_flatMap_replicate, Nat.cast_mul, mul_div_mul_left _ _ hne]

variable [LinearOrder α] [IsStrictOrderedRing α]

theorem length_pos_cast (hne : xs ≠ []) : (0 : α) < xs.length := by
  exact_mod_cast List.length_pos_of_ne_nil hne

theorem le_mean {a : α} (hne : xs ≠ []) (h : ∀ x ∈ xs, a ≤ x) : a ≤ mean xs := by
  have hsum := List.card_nsmul_le_sum xs a h
  unfold mean
  rw [le_div_iff₀ (length_pos_cast hne), mul_comm, ← nsmul_eq_mul]
  exact hsum

theorem mean_le {a : α} (hne : xs ≠ []) (h : ∀ x ∈ xs, x ≤ a) : mean xs ≤ a := by
  have hsum := List.sum_le_card_nsmul xs a h
  unfold mean
  rw [div_le_iff₀ (length_pos_cast hne), mul_comm, ← nsmul_eq_mul]
  exact hsum

theorem mean_eq {a : α} (hne : xs ≠ []) (h : ∀ x ∈ xs, x = a) : mean xs = a := by
  refine le_antisymm (mean_le hne ?_) (le_mean hne ?_)
  · intro x hx
    exact (h x hx).le
  · intro x hx
    exact (h x hx).ge

end Mean

end OrderStatistics
