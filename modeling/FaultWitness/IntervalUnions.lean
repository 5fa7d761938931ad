/-
**Unions of intervals.**

Closed intervals of the line with integer ends, as lists of pairs.  The measure of their union is the sum
of their lengths if they are apart from each other, and at most this sum in general.

Main definitions:

* `IntervalUnions.covered` — the union of the intervals;
* `IntervalUnions.Apart` — the intervals are proper, and each lies before all that stand before it.

Main results:

* `IntervalUnions.volume_covered` — **the measure of intervals that are apart is the sum of their
  lengths**;
* `IntervalUnions.volume_covered_le` — the measure of any intervals is at most this sum.
-/

import Mathlib.MeasureTheory.Measure.Lebesgue.Basic

set_option autoImplicit false

namespace IntervalUnions

open MeasureTheory

/-- The points of an interval. -/
def points (i : ℤ × ℤ) : Set ℝ := Set.Icc (i.1 : ℝ) i.2

/-- The points of some interval of the list. -/
def covered (l : List (ℤ × ℤ)) : Set ℝ := {x | ∃ i ∈ l, x ∈ points i}

/-- The lengths of all intervals together. -/
def total (l : List (ℤ × ℤ)) : ℤ := (l.map fun i => i.2 - i.1).sum

/-- The intervals are proper, and each lies before all that stand before it. -/
structure Apart (l : List (ℤ × ℤ)) : Prop where
  proper : ∀ i ∈ l, i.1 ≤ i.2
  before : l.Pairwise fun later earlier => earlier.2 < later.1

@[simp] theorem covered_nil : covered [] = ∅ := by
  ext x
  simp [covered]

@[simp] theorem covered_cons (i : ℤ × ℤ) (l : List (ℤ × ℤ)) :
    covered (i :: l) = points i ∪ covered l := by
  ext x
  simp [covered]

variable {l : List (ℤ × ℤ)}

theorem covered_mono {l' : List (ℤ × ℤ)} (h : l ⊆ l') : covered l ⊆ covered l' := by
  rintro x ⟨i, hi, hx⟩
  exact ⟨i, h hi, hx⟩

theorem points_subset_covered {i : ℤ × ℤ} (h : i ∈ l) : points i ⊆ covered l :=
  fun _ hx => ⟨i, h, hx⟩

@[simp] theorem total_cons (i : ℤ × ℤ) (l : List (ℤ × ℤ)) : total (i :: l) = i.2 - i.1 + total l := by
  simp [total]

theorem total_nonneg (h : ∀ i ∈ l, i.1 ≤ i.2) : 0 ≤ total l := by
  refine List.sum_nonneg fun x hx => ?_
  obtain ⟨i, hi, rfl⟩ := List.mem_map.1 hx
  exact sub_nonneg.2 (h i hi)

theorem points_union {i j : ℤ × ℤ} (hj : j.1 ≤ j.2) (hstart : i.1 ≤ j.1) (hmeet : j.1 ≤ i.2) :
    points (i.1, max i.2 j.2) = points i ∪ points j := by
  have hstart' : (i.1 : ℝ) ≤ j.1 := by exact_mod_cast hstart
  have hmeet' : (j.1 : ℝ) ≤ i.2 := by exact_mod_cast hmeet
  have houter : (i.1 : ℝ) ≤ j.2 := by exact_mod_cast hstart.trans hj
  rw [points, points, points, Set.Icc_union_Icc' hmeet' houter, min_eq_left hstart', Int.cast_max]

/-! ### Measures -/

theorem volume_points (i : ℤ × ℤ) : volume (points i) = ENNReal.ofReal ((i.2 - i.1 : ℤ) : ℝ) := by
  rw [points, Real.volume_Icc, Int.cast_sub]

theorem measurableSet_covered (l : List (ℤ × ℤ)) : MeasurableSet (covered l) := by
  induction l with
  | nil => exact covered_nil ▸ MeasurableSet.empty
  | cons i l ih =>
    rw [covered_cons]
    exact measurableSet_Icc.union ih

/-- **The measure of intervals that are apart is the sum of their lengths.** -/
theorem volume_covered (h : Apart l) : volume (covered l) = ENNReal.ofReal (total l) := by
  induction l with
  | nil => simp [total]
  | cons i l ih =>
    obtain ⟨hbefore, hrest⟩ := List.pairwise_cons.1 h.before
    have hproper : ∀ j ∈ l, j.1 ≤ j.2 := fun j hj => h.proper j (List.mem_cons_of_mem _ hj)
    have hdisjoint : Disjoint (points i) (covered l) := by
      rw [Set.disjoint_left]
      rintro x ⟨hx, -⟩ ⟨j, hj, -, hx'⟩
      have hlt : (j.2 : ℝ) < i.1 := by exact_mod_cast hbefore j hj
      linarith
    have hlength : (0 : ℝ) ≤ ((i.2 - i.1 : ℤ) : ℝ) := by
      exact_mod_cast sub_nonneg.2 (h.proper i List.mem_cons_self)
    have htotal : (0 : ℝ) ≤ (total l : ℝ) := by exact_mod_cast total_nonneg hproper
    rw [covered_cons, measure_union hdisjoint (measurableSet_covered l), volume_points,
      ih ⟨hproper, hrest⟩, ← ENNReal.ofReal_add hlength htotal, total_cons]
    norm_cast

/-- The measure of any proper intervals is at most the sum of their lengths. -/
theorem volume_covered_le (h : ∀ i ∈ l, i.1 ≤ i.2) :
    volume (covered l) ≤ ENNReal.ofReal (total l) := by
  induction l with
  | nil => simp
  | cons i l ih =>
    have hproper : ∀ j ∈ l, j.1 ≤ j.2 := fun j hj => h j (List.mem_cons_of_mem _ hj)
    have hlength : (0 : ℝ) ≤ ((i.2 - i.1 : ℤ) : ℝ) := by
      exact_mod_cast sub_nonneg.2 (h i List.mem_cons_self)
    have htotal : (0 : ℝ) ≤ (total l : ℝ) := by exact_mod_cast total_nonneg hproper
    calc volume (covered (i :: l))
        ≤ volume (points i) + volume (covered l) := by
          rw [covered_cons]
          exact measure_union_le _ _
      _ ≤ ENNReal.ofReal ((i.2 - i.1 : ℤ) : ℝ) + ENNReal.ofReal (total l) := by
          rw [volume_points]
          exact add_le_add le_rfl (ih hproper)
      _ = ENNReal.ofReal (total (i :: l)) := by
          rw [← ENNReal.ofReal_add hlength htotal, total_cons]
          norm_cast

end IntervalUnions
